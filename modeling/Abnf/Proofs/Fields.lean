import Abnf.Proofs.RoundTrip

/-!
# Nodes by their fields

A node is made up of the fields that its members fill, one member after the other.  What a member
puts into its slot does not depend on what is there already (`Slot.fill_eq_ok`), so that the order
of the members does not matter (`Node.ofValue_perm`).  Members that are not fields mean nothing, a
kind may be called by any of its names, the elements of a list are fields in their order, and a base
that is `null` may be left out; the like holds of bounds.
-/

namespace Abnf

open Json (Value Cause)

/-! ## One step after the other -/

section Steps

variable {ε σ α β : Type}

lemma Except.bind_eq_ok {x : Except ε α} {f : α → Except ε β} {b : β} :
    x >>= f = .ok b ↔ ∃ a, x = .ok a ∧ f a = .ok b :=
  ⟨Node.exists_of_bind_eq_ok, fun ⟨_, hx, hf⟩ => hx ▸ hf⟩

lemma Except.map_eq_ok {x : Except ε α} {f : α → β} {b : β} :
    x.map f = .ok b ↔ ∃ a, x = .ok a ∧ f a = b :=
  ⟨Node.exists_of_map_eq_ok, fun ⟨_, hx, hf⟩ => hx ▸ hf ▸ rfl⟩

/-- If any two steps may be exchanged, the order of the steps does not matter. -/
lemma foldlM_eq_ok_of_perm {f : σ → α → Except ε σ}
    (hf : ∀ s a b s', [a, b].foldlM f s = .ok s' → [b, a].foldlM f s = .ok s') {l l' : List α}
    (h : l.Perm l') {s s' : σ} : l.foldlM f s = .ok s' ↔ l'.foldlM f s = .ok s' := by
  have hperm {l l' : List α} (h : l.Perm l') (s s' : σ) (hl : l.foldlM f s = .ok s') :
      l'.foldlM f s = .ok s' := by
    induction h generalizing s with
    | nil => exact hl
    | cons a _ ih =>
      obtain ⟨s₁, hs₁, hrest⟩ := Except.bind_eq_ok.1 hl
      exact Except.bind_eq_ok.2 ⟨s₁, hs₁, ih s₁ hrest⟩
    | swap a b rest =>
      have hsplit (a b : α) :
          (a :: b :: rest).foldlM f s = [a, b].foldlM f s >>= rest.foldlM f := by
        rw [← List.foldlM_append]
        rfl
      rw [hsplit] at hl ⊢
      obtain ⟨s₁, hs₁, hrest⟩ := Except.bind_eq_ok.1 hl
      exact Except.bind_eq_ok.2 ⟨s₁, hf s b a s₁ hs₁, hrest⟩
    | trans _ _ ih ih' => exact ih' s (ih s hl)
  exact ⟨hperm h s s', hperm h.symm s s'⟩

/-- A step may be left out if nothing comes of it when it is made last. -/
lemma exists_foldlM_cons_iff {f : σ → α → Except ε σ} {finish : σ → Except ε β}
    (hf : ∀ s a b s', [a, b].foldlM f s = .ok s' → [b, a].foldlM f s = .ok s') {a : α} {l : List α}
    {s : σ} {b : β}
    (hlast : ∀ s', l.foldlM f s = .ok s' → ∃ s'', f s' a = .ok s'' ∧ finish s'' = finish s') :
    (∃ s', (a :: l).foldlM f s = .ok s' ∧ finish s' = .ok b) ↔
      ∃ s', l.foldlM f s = .ok s' ∧ finish s' = .ok b := by
  have hstep (s' : σ) : [a].foldlM f s' = f s' a := by
    rw [List.foldlM_cons]
    cases f s' a <;> rfl
  simp only [← foldlM_eq_ok_of_perm hf (List.perm_append_singleton a l), List.foldlM_append,
    Except.bind_eq_ok, hstep]
  constructor
  · rintro ⟨s'', ⟨s', hs', hs''⟩, hb⟩
    obtain ⟨_, hsame, hfinish⟩ := hlast s' hs'
    rw [hs''] at hsame
    obtain rfl := Except.ok.inj hsame
    exact ⟨s', hs', hfinish.symm.trans hb⟩
  · rintro ⟨s', hs', hb⟩
    obtain ⟨s'', hs'', hfinish⟩ := hlast s' hs'
    exact ⟨s'', ⟨s', hs', hs''⟩, hfinish.trans hb⟩

end Steps

/-! ## Filling slots -/

/-- Some parts laid over others. -/
def Parts.onto (new old : Parts) : Parts where
  name := new.name.or old.name
  text := new.text.or old.text
  base := new.base.or old.base
  first := new.first.or old.first
  last := new.last.or old.last
  child := new.child.or old.child
  children := new.children.or old.children
  bounds := new.bounds.or old.bounds

lemma Parts.onto_assoc (a b c : Parts) : (a.onto b).onto c = a.onto (b.onto c) := by
  simp only [onto, Option.or_assoc]

namespace Slot

variable {slot other : Slot} {v : Value} {node : Unit → Except Cause Node}
  {nodes : Unit → Except Cause (List Node)} {new parts parts' : Parts}

/-- The slot by which a field is known: a base is the same field whether it may be `null` or not. -/
def field : Slot → Slot
  | .baseOrNull => .base
  | slot => slot

/-- Fills a slot with what a value is. -/
def take (slot : Slot) (v : Value) (parts : Parts) : Except Cause Parts :=
  slot.fill v (fun _ => Node.ofValue v) (fun _ => Node.listOfValue v) parts

lemma isSet_onto : slot.isSet (new.onto parts) = (slot.isSet new || slot.isSet parts) := by
  cases slot <;> exact Option.isSome_or

/-- What a value puts into a slot does not depend on what is there already. -/
lemma fill_eq_ok : slot.fill v node nodes parts = .ok parts' ↔
    ∃ new, slot.fill v node nodes {} = .ok new ∧ new.onto parts = parts' := by
  cases slot <;> simp [fill, Except.map_eq_ok, Parts.onto]

/-- To fill a slot sets its field and no other one. -/
lemma isSet_of_fill (h : slot.fill v node nodes {} = .ok new) :
    other.isSet new = true ↔ other.field = slot.field := by
  cases slot <;> obtain ⟨_, -, rfl⟩ := Except.map_eq_ok.1 h <;> cases other <;>
    simp [isSet, field]

/-- What is put into a free slot may as well lie below what is there. -/
lemma onto_comm (h : slot.fill v node nodes {} = .ok new) (hfree : slot.isSet parts = false) :
    new.onto parts = parts.onto new := by
  cases slot <;> obtain ⟨_, -, rfl⟩ := Except.map_eq_ok.1 h <;>
    simp_all [isSet, Parts.onto]

end Slot

namespace Node

variable {kind : Kind} {members members' : List (String × Value)} {node : Node}

/-! ## The members of an object -/

/-- Adds what a member says of the kind of a node. -/
def addKind (found : Option Kind) (m : String × Value) : Except Cause (Option Kind) :=
  if m.1 = tagKey then
    if found.isSome then .error (.duplicateField tagKey) else some <$> Kind.ofValue m.2
  else .ok found

/-- Adds what a member says of the fields of a node. -/
def addMember (kind : Kind) (parts : Parts) (m : String × Value) : Except Cause Parts :=
  match kind.fields.lookup m.1 with
  | none => .ok parts
  | some slot =>
    if slot.isSet parts then .error (.duplicateField m.1) else slot.take m.2 parts

lemma kindOfMembers_eq_ok {found : Option Kind} :
    kindOfMembers found members = .ok kind ↔ members.foldlM addKind found = .ok (some kind) := by
  induction members generalizing found with
  | nil =>
    cases found with
    | none => exact iff_of_false (fun h => by cases h) (fun h => by cases h)
    | some other => simp [kindOfMembers, pure, Except.pure]
  | cons m rest ih =>
    obtain ⟨name, v⟩ := m
    rw [kindOfMembers, List.foldlM_cons, addKind]
    split
    · next htag =>
      cases found with
      | some _ => exact iff_of_false (fun h => by cases h) (fun h => by cases h)
      | none =>
        cases hkind : Kind.ofValue v with
        | error cause => exact iff_of_false (fun h => by cases h) (fun h => by cases h)
        | ok other => exact ih
    · exact ih

lemma partsOfMembers_eq (parts : Parts) :
    partsOfMembers kind members parts = members.foldlM (addMember kind) parts := by
  induction members generalizing parts with
  | nil => rfl
  | cons m rest ih =>
    obtain ⟨name, v⟩ := m
    rw [partsOfMembers, List.foldlM_cons, addMember]
    cases kind.fields.lookup name with
    | none => exact ih parts
    | some slot =>
      dsimp only
      split
      · rfl
      · exact congrArg _ (funext ih)

/-- An object is a node if its members say so, of its kind and of its fields. -/
lemma ofValue_obj_eq_ok : ofValue (.obj members) = .ok node ↔
    ∃ kind, members.foldlM addKind none = .ok (some kind) ∧
      ∃ parts, members.foldlM (addMember kind) {} = .ok parts ∧ kind.assemble parts = .ok node := by
  have hunfold : ofValue (.obj members) = (do
      let kind ← kindOfMembers none members
      let parts ← partsOfMembers kind members {}
      kind.assemble parts) := by
    rw [ofValue]
  simp only [hunfold, Except.bind_eq_ok, kindOfMembers_eq_ok, partsOfMembers_eq]

lemma addKind_swap (found : Option Kind) (m m' : String × Value) (found' : Option Kind)
    (h : [m, m'].foldlM addKind found = .ok found') :
    [m', m].foldlM addKind found = .ok found' := by
  simp only [List.foldlM_cons, List.foldlM_nil, Except.bind_eq_ok, addKind] at h ⊢
  by_cases hm : m.1 = tagKey <;> by_cases hm' : m'.1 = tagKey
  · -- The kind can be given only once.
    obtain ⟨first, hfirst, h⟩ := h
    rw [if_pos hm] at hfirst
    split at hfirst
    · cases hfirst
    · obtain ⟨_, -, rfl⟩ := exists_of_map_eq_ok hfirst
      simp [hm'] at h
  · simp_all
  · simp_all
  · simp_all

/-- Two members may be exchanged: they fill different fields if both of them are fields. -/
lemma addMember_swap (parts : Parts) (m m' : String × Value) (parts' : Parts)
    (h : [m, m'].foldlM (addMember kind) parts = .ok parts') :
    [m', m].foldlM (addMember kind) parts = .ok parts' := by
  simp only [List.foldlM_cons, List.foldlM_nil, Except.bind_eq_ok, addMember] at h ⊢
  obtain ⟨middle, hm, _, hm', hend⟩ := h
  obtain rfl := Except.ok.inj hend
  cases hslot : kind.fields.lookup m.1 with
  | none =>
    rw [hslot] at hm
    obtain rfl := Except.ok.inj hm
    exact ⟨_, hm', _, rfl, rfl⟩
  | some slot =>
    cases hslot' : kind.fields.lookup m'.1 with
    | none =>
      rw [hslot'] at hm'
      obtain rfl := Except.ok.inj hm'
      rw [hslot] at hm
      exact ⟨_, rfl, _, hm, rfl⟩
    | some slot' =>
      rw [hslot] at hm
      rw [hslot'] at hm'
      dsimp only at hm hm' ⊢
      split at hm
      · cases hm
      · next hfree =>
        split at hm'
        · cases hm'
        · next hfree' =>
          obtain ⟨new, hnew, rfl⟩ := Slot.fill_eq_ok.1 hm
          obtain ⟨new', hnew', rfl⟩ := Slot.fill_eq_ok.1 hm'
          rw [Slot.isSet_onto, Bool.or_eq_true, not_or] at hfree'
          obtain ⟨hother, hfree'⟩ := hfree'
          have hother' : ¬ slot.isSet new' = true := by
            rw [Slot.isSet_of_fill hnew, Slot.isSet_of_fill hnew'] at *
            exact Ne.symm hother
          -- What the second member puts lies above or below that of the first one alike.
          have hexchanged : new'.onto (new.onto parts) = new.onto (new'.onto parts) := by
            rw [← Parts.onto_assoc, ← Parts.onto_assoc,
              Slot.onto_comm hnew' (Bool.eq_false_iff.2 hother)]
          refine ⟨new'.onto parts, ?_, new.onto (new'.onto parts), ?_, congrArg _ hexchanged.symm⟩
          · rw [if_neg hfree']
            exact Slot.fill_eq_ok.2 ⟨new', hnew', rfl⟩
          · rw [if_neg (by rw [Slot.isSet_onto, Bool.or_eq_true]; exact not_or.2 ⟨hother', hfree⟩)]
            exact Slot.fill_eq_ok.2 ⟨new, hnew, rfl⟩

/-- The order of the members does not matter. -/
lemma ofValue_perm (h : members.Perm members') :
    ofValue (.obj members) = .ok node ↔ ofValue (.obj members') = .ok node := by
  simp only [ofValue_obj_eq_ok, foldlM_eq_ok_of_perm addKind_swap h,
    foldlM_eq_ok_of_perm addMember_swap h]

lemma lookup_tagKey (kind : Kind) : kind.fields.lookup tagKey = none := by
  cases kind <;> rfl

lemma lookup_of_mem {f : String × Slot} (h : f ∈ kind.fields) :
    kind.fields.lookup f.1 = some f.2 := by
  have hall : ∀ f ∈ kind.fields, kind.fields.lookup f.1 = some f.2 := by
    cases kind with
    | literal casing => cases casing <;> decide
    | _ => decide
  exact hall f h

/-- The slots of a kind are of different fields. -/
lemma nodup_fields (kind : Kind) : (kind.fields.map fun f => f.2.field).Nodup := by
  cases kind with
  | literal casing => cases casing <;> decide
  | _ => decide

lemma lookup_eq_none {name : String} :
    kind.fields.lookup name = none ↔ name ∉ kind.fields.map Prod.fst := by
  rw [List.lookup_eq_none_iff, List.mem_map]
  exact ⟨fun h ⟨f, hf, hname⟩ => by simpa [hname] using h f hf,
    fun h f hf => bne_iff_ne.2 fun hname => h ⟨f, hf, hname.symm⟩⟩

lemma ne_tagKey {name : String} (h : name ∈ kind.fields.map Prod.fst) : name ≠ tagKey := by
  rintro rfl
  exact lookup_eq_none.1 (lookup_tagKey kind) h

lemma mem_of_lookup {name : String} {slot : Slot} (h : kind.fields.lookup name = some slot) :
    name ∈ kind.fields.map Prod.fst := by
  by_contra hname
  rw [lookup_eq_none.2 hname] at h
  cases h

/-- The kind is what a member says of it, wherever the other members stand. -/
lemma kindOfMembers_cons {m : String × Value} (h : m.1 ≠ tagKey) :
    kindOfMembers none (m :: members) = kindOfMembers none members := by
  rw [kindOfMembers, if_neg h]

/-- Once the kind is known, the fields decide. -/
lemma ofValue_obj_of_kind (hkind : kindOfMembers none members = .ok kind) :
    ofValue (.obj members) = .ok node ↔
      ∃ parts, members.foldlM (addMember kind) {} = .ok parts ∧ kind.assemble parts = .ok node := by
  rw [kindOfMembers_eq_ok] at hkind
  simp [ofValue_obj_eq_ok, hkind]

lemma addMember_of_not_mem {parts : Parts} {m : String × Value}
    (h : m.1 ∉ kind.fields.map Prod.fst) : addMember kind parts m = .ok parts := by
  rw [addMember, lookup_eq_none.2 h]

/-- A member that is neither the kind nor a field means nothing. -/
lemma ofValue_extended {m : String × Value} (hkind : kindOfMembers none members = .ok kind)
    (hname : m.1 ∉ tagKey :: kind.fields.map Prod.fst) :
    ofValue (.obj members) = .ok node ↔ ofValue (.obj (m :: members)) = .ok node := by
  obtain ⟨htag, hfields⟩ := not_or.1 (List.mem_cons.not.1 hname)
  rw [ofValue_obj_of_kind hkind, ofValue_obj_of_kind ((kindOfMembers_cons htag).trans hkind)]
  simp only [List.foldlM_cons, addMember_of_not_mem hfields]
  rfl

/-- A kind may be called by any of its names. -/
lemma ofValue_renamed {name name' : String} (hname : Kind.named.ofName name = .ok kind)
    (hname' : Kind.named.ofName name' = .ok kind) :
    ofValue (.obj ((tagKey, .str name) :: members)) = .ok node ↔
      ofValue (.obj ((tagKey, .str name') :: members)) = .ok node := by
  have hadd {name : String} (h : Kind.named.ofName name = .ok kind) :
      addKind none (tagKey, .str name) = .ok (some kind) := by
    show some <$> Kind.named.ofName name = _
    rw [h]
    rfl
  have hskip (kind : Kind) (parts : Parts) (v : Value) :
      addMember kind parts (tagKey, v) = .ok parts :=
    addMember_of_not_mem (lookup_eq_none.1 (lookup_tagKey kind))
  simp only [ofValue_obj_eq_ok, List.foldlM_cons, hadd hname, hadd hname', hskip]

/-! ## The elements of a list -/

/-- Every field that is needed has been read when a node is made up. -/
lemma isSet_of_assemble {parts : Parts} (h : kind.assemble parts = .ok node) {f : String × Slot}
    (hf : f ∈ kind.fields) : f.2.isSet parts = true ∨ f.2.isOptional = true := by
  have hrequire {α : Type} {name : String} {field : Option α} {a : α} :
      Slot.require name field = .ok a ↔ field = some a :=
    ⟨eq_some_of_require, fun h => by rw [h]; rfl⟩
  have hmap {α β : Type} {x : Except Cause α} {g : α → β} {b : β} :
      g <$> x = .ok b ↔ ∃ a, x = .ok a ∧ g a = b := Except.map_eq_ok
  have hbase {b : Base} (h : parts.base.getD none = some b) : parts.base.isSome = true := by
    cases hbase : parts.base with
    | none => simp [hbase] at h
    | some _ => rfl
  cases kind <;>
    simp only [Kind.assemble, Except.bind_eq_ok, hmap, hrequire] at h <;>
    simp only [Kind.fields, List.mem_cons, List.not_mem_nil, or_false] at hf <;>
    grind [Slot.isSet, Slot.isOptional]

lemma checkAbsent_eq_ok {done : Nat} {fields : List (String × Slot)} {u : Unit} :
    checkAbsent kind done fields = .ok u ↔ ∀ f ∈ fields, f.2.isOptional = true := by
  induction fields generalizing done with
  | nil => exact ⟨fun _ f hf => absurd hf List.not_mem_nil, fun _ => rfl⟩
  | cons f rest ih =>
    obtain ⟨name, slot⟩ := f
    rw [checkAbsent, List.forall_mem_cons]
    split
    · next hoptional => rw [ih, and_iff_right hoptional]
    · next hoptional => exact iff_of_false (fun h => by cases h) fun h => hoptional h.1

/-- The elements of a list are read like members with the names of the fields, if all fields that
are needed are there. -/
lemma partsOfItems_eq_ok {left : List (String × Slot)} (hleft : left <:+ kind.fields)
    {fields : List (String × Value)} (hfields : fields.map Prod.fst <+: left.map Prod.fst)
    {done : Nat} {parts parts' : Parts} (hfree : ∀ f ∈ left, f.2.isSet parts = false)
    (hall : ∀ f ∈ kind.fields, f.2.isSet parts' = true ∨ f.2.isOptional = true) :
    partsOfItems kind done left (fields.map Prod.snd) parts = .ok parts' ↔
      fields.foldlM (addMember kind) parts = .ok parts' := by
  induction fields generalizing left done parts with
  | nil =>
    rw [List.map_nil, partsOfItems, Except.map_eq_ok]
    constructor
    · rintro ⟨_, -, rfl⟩
      rfl
    · intro h
      obtain rfl := Except.ok.inj h
      refine ⟨(), checkAbsent_eq_ok.2 fun f hf => ?_, rfl⟩
      exact (hall f (hleft.subset hf)).resolve_left (Bool.eq_false_iff.1 (hfree f hf))
  | cons m rest ih =>
    cases left with
    | nil => cases List.prefix_nil.1 hfields
    | cons f left =>
      obtain ⟨name, v⟩ := m
      obtain ⟨other, slot⟩ := f
      rw [List.map_cons, List.map_cons, List.cons_prefix_cons] at hfields
      obtain ⟨rfl, hrest⟩ := hfields
      have hslot := lookup_of_mem (hleft.subset List.mem_cons_self)
      have hset := hfree _ List.mem_cons_self
      dsimp only at hslot hset
      have hadd : addMember kind parts (name, v) = slot.take v parts := by
        rw [addMember, hslot]
        exact if_neg (Bool.eq_false_iff.1 hset)
      have hdistinct := (nodup_fields kind).sublist (hleft.sublist.map _)
      rw [List.map_cons, List.nodup_cons] at hdistinct
      rw [List.map_cons, partsOfItems, List.foldlM_cons, hadd, Except.bind_eq_ok, Except.bind_eq_ok]
      refine exists_congr fun middle => and_congr_right fun hmiddle => ?_
      -- The fields that are left stay free, since they are different from the one that is filled.
      refine ih ((List.suffix_cons _ _).trans hleft) hrest fun f hf => ?_
      obtain ⟨new, hnew, rfl⟩ := Slot.fill_eq_ok.1 hmiddle
      rw [Slot.isSet_onto, Bool.or_eq_false_iff]
      refine ⟨Bool.eq_false_iff.2 fun hother => ?_, hfree f (List.mem_cons_of_mem _ hf)⟩
      exact hdistinct.1 (List.mem_map.2 ⟨f, hf, (Slot.isSet_of_fill hnew).1 hother⟩)

/-- A list is a node if its first element gives the kind and the others the fields. -/
lemma ofValue_arr_eq_ok {tag : Value} {items : List Value} :
    ofValue (.arr (tag :: items)) = .ok node ↔ ∃ kind, Kind.ofValue tag = .ok kind ∧
      ∃ parts, partsOfItems kind 0 kind.fields items {} = .ok parts ∧
        kind.assemble parts = .ok node := by
  rw [ofValue]
  simp only [Except.bind_eq_ok]

/-- A node may be written as the list of the name of its kind and its fields in their order. -/
lemma ofValue_listed {tag : Value} {fields : List (String × Value)}
    (hkind : Kind.ofValue tag = .ok kind)
    (hfields : fields.map Prod.fst <+: kind.fields.map Prod.fst) :
    ofValue (.obj ((tagKey, tag) :: fields)) = .ok node ↔
      ofValue (.arr (tag :: fields.map Prod.snd)) = .ok node := by
  have hnames : ∀ m ∈ fields, m.1 ≠ tagKey := fun m hm =>
    ne_tagKey (hfields.subset (List.mem_map_of_mem hm))
  have hmembers : kindOfMembers none ((tagKey, tag) :: fields) = .ok kind := by
    rw [kindOfMembers, if_pos rfl]
    show Kind.ofValue tag >>= _ = _
    rw [hkind]
    exact kindOfMembers_some kind hnames
  have hskip : addMember kind {} (tagKey, tag) = .ok {} :=
    addMember_of_not_mem (lookup_eq_none.1 (lookup_tagKey kind))
  rw [ofValue_obj_of_kind hmembers, ofValue_arr_eq_ok, List.foldlM_cons, hskip]
  simp only [hkind, Except.ok.injEq, exists_eq_left']
  refine exists_congr fun parts => and_congr_left fun hassemble => ?_
  have hfree : ∀ f ∈ kind.fields, f.2.isSet {} = false := fun f _ => by cases f.2 <;> rfl
  exact (partsOfItems_eq_ok (List.suffix_refl _) hfields hfree fun f =>
    isSet_of_assemble hassemble).symm

/-! ## Changes inside a node -/

/-- A field that gets set is named by a member. -/
lemma exists_of_isSet {slot : Slot} {parts parts' : Parts}
    (h : members.foldlM (addMember kind) parts = .ok parts') (hset : slot.isSet parts' = true) :
    slot.isSet parts = true ∨
      ∃ f ∈ kind.fields, f.1 ∈ members.map Prod.fst ∧ f.2.field = slot.field := by
  induction members generalizing parts with
  | nil => exact .inl (Except.ok.inj h ▸ hset)
  | cons m rest ih =>
    obtain ⟨middle, hmiddle, hrest⟩ := Except.bind_eq_ok.1 h
    rcases ih hrest with hset | ⟨f, hf, hname, hfield⟩
    · rw [addMember] at hmiddle
      cases hslot : kind.fields.lookup m.1 with
      | none =>
        rw [hslot] at hmiddle
        exact .inl (Except.ok.inj hmiddle ▸ hset)
      | some other =>
        rw [hslot] at hmiddle
        dsimp only at hmiddle
        split at hmiddle
        · cases hmiddle
        · obtain ⟨new, hnew, rfl⟩ := Slot.fill_eq_ok.1 hmiddle
          rw [Slot.isSet_onto, Bool.or_eq_true, Slot.isSet_of_fill hnew] at hset
          refine hset.symm.imp_right fun hfield => ⟨(m.1, other), ?_, by simp, hfield.symm⟩
          obtain ⟨before, after, hfields, -⟩ := List.lookup_eq_some_iff.1 hslot
          simp [hfields]
    · exact .inr ⟨f, hf, List.mem_cons_of_mem _ hname, hfield⟩

/-- A base that is `null` may be left out. -/
lemma ofValue_baseOmitted {casing : Casing}
    (hkind : kindOfMembers none members = .ok (.literal casing))
    (habsent : "base" ∉ members.map Prod.fst) :
    ofValue (.obj (("base", .null) :: members)) = .ok node ↔ ofValue (.obj members) = .ok node := by
  have hcons : kindOfMembers none (("base", .null) :: members) = .ok (.literal casing) :=
    (kindOfMembers_cons (by decide)).trans hkind
  have hunset {parts : Parts}
      (h : members.foldlM (addMember (.literal casing)) {} = .ok parts) : parts.base = none := by
    rw [← Option.not_isSome_iff_eq_none]
    intro hbase
    have hset : Slot.isSet .base parts = true := hbase
    rcases exists_of_isSet h hset with hset | ⟨f, hf, hname, hfield⟩
    · cases hset
    · rcases List.mem_pair.1 hf with rfl | rfl
      · cases hfield
      · exact habsent hname
  have hadd {parts : Parts} (hbase : parts.base = none) :
      addMember (.literal casing) parts ("base", .null) = .ok { parts with base := some none } := by
    show (if parts.base.isSome then _ else _) = _
    rw [hbase]
    rfl
  have hassemble {parts : Parts} (hbase : parts.base = none) :
      Kind.assemble (.literal casing) { parts with base := some none } =
        Kind.assemble (.literal casing) parts := by
    rw [Kind.assemble, Kind.assemble, hbase]
    rfl
  rw [ofValue_obj_of_kind hcons, ofValue_obj_of_kind hkind]
  exact exists_foldlM_cons_iff addMember_swap fun parts hparts =>
    ⟨{ parts with base := some none }, hadd (hunset hparts), hassemble (hunset hparts)⟩

end Node

namespace Repeat

variable {members members' : List (String × Value)} {r : Repeat}

lemma ofValue_obj_eq_ok : ofValue (.obj members) = .ok r ↔
    ∃ p, members.foldlM Partial.add {} = .ok p ∧ p.finish = .ok r :=
  Except.bind_eq_ok

/-- What a member adds to bounds: a field that is not there yet, or nothing. -/
lemma add_eq_ok {p p' : Partial} {name : String} {v : Value} : p.add (name, v) = .ok p' ↔
    (name = "min" ∧ p.min = none ∧ ∃ n, v.asWord = .ok n ∧ { p with min := some n } = p') ∨
      (name = "max" ∧ p.max = none ∧
        ∃ n, v.asOptional Value.asWord = .ok n ∧ { p with max := some n } = p') ∨
      (name ∉ ["min", "max"] ∧ p = p') := by
  by_cases hmin : name = "min"
  · subst hmin
    cases hp : p.min <;> simp [Partial.add, hp, Except.bind_eq_ok]
  · by_cases hmax : name = "max"
    · subst hmax
      cases hp : p.max <;> simp [Partial.add, hp, Except.bind_eq_ok]
    · simp [Partial.add, hmin, hmax]

lemma add_swap (p : Partial) (m m' : String × Value) (p' : Partial)
    (h : [m, m'].foldlM Partial.add p = .ok p') : [m', m].foldlM Partial.add p = .ok p' := by
  simp only [List.foldlM_cons, List.foldlM_nil, Except.bind_eq_ok] at h ⊢
  obtain ⟨middle, hm, last, hm', hend⟩ := h
  obtain rfl := Except.ok.inj hend
  rcases add_eq_ok.1 hm with ⟨hname, hfree, n, hn, rfl⟩ | ⟨hname, hfree, n, hn, rfl⟩ | ⟨hname, rfl⟩
  · rcases add_eq_ok.1 hm' with ⟨-, h, -⟩ | ⟨hname', hfree', n', hn', rfl⟩ | ⟨hname', rfl⟩
    · cases h
    · exact ⟨_, add_eq_ok.2 (.inr (.inl ⟨hname', hfree', n', hn', rfl⟩)), _,
        add_eq_ok.2 (.inl ⟨hname, hfree, n, hn, rfl⟩), rfl⟩
    · exact ⟨p, add_eq_ok.2 (.inr (.inr ⟨hname', rfl⟩)), _, hm, rfl⟩
  · rcases add_eq_ok.1 hm' with ⟨hname', hfree', n', hn', rfl⟩ | ⟨-, h, -⟩ | ⟨hname', rfl⟩
    · exact ⟨_, add_eq_ok.2 (.inl ⟨hname', hfree', n', hn', rfl⟩), _,
        add_eq_ok.2 (.inr (.inl ⟨hname, hfree, n, hn, rfl⟩)), rfl⟩
    · cases h
    · exact ⟨p, add_eq_ok.2 (.inr (.inr ⟨hname', rfl⟩)), _, hm, rfl⟩
  · exact ⟨_, hm', _, add_eq_ok.2 (.inr (.inr ⟨hname, rfl⟩)), rfl⟩

/-- The order of the members does not matter. -/
lemma ofValue_perm (h : members.Perm members') :
    ofValue (.obj members) = .ok r ↔ ofValue (.obj members') = .ok r := by
  simp only [ofValue_obj_eq_ok, foldlM_eq_ok_of_perm add_swap h]

/-- A member with another name means nothing. -/
lemma ofValue_extended {m : String × Value} (hname : m.1 ∉ ["min", "max"]) :
    ofValue (.obj members) = .ok r ↔ ofValue (.obj (m :: members)) = .ok r := by
  have hskip : Partial.add {} m = .ok {} := add_eq_ok.2 (.inr (.inr ⟨hname, rfl⟩))
  rw [ofValue_obj_eq_ok, ofValue_obj_eq_ok, List.foldlM_cons, hskip]
  rfl

/-- Bounds may be written as a list. -/
lemma ofValue_listed {fields : List (String × Value)}
    (hfields : fields.map Prod.fst <+: ["min", "max"]) :
    ofValue (.obj fields) = .ok r ↔ ofValue (.arr (fields.map Prod.snd)) = .ok r := by
  rw [ofValue_obj_eq_ok]
  match fields with
  | [] => exact iff_of_false (fun ⟨p, hp, hr⟩ => by cases hp; cases hr) (fun h => by cases h)
  | [(name, v)] =>
    obtain ⟨rfl, -⟩ := List.cons_prefix_cons.1 hfields
    simp [add_eq_ok, ofValue, Partial.finish, Except.bind_eq_ok]
  | [(name, v), (name', w)] =>
    obtain ⟨rfl, hrest⟩ := List.cons_prefix_cons.1 hfields
    obtain ⟨rfl, -⟩ := List.cons_prefix_cons.1 hrest
    simp [add_eq_ok, ofValue, Partial.finish, Except.bind_eq_ok]
  | _ :: _ :: _ :: _ =>
    have hlength := hfields.length_le
    simp at hlength

/-- A greatest number that is `null` may be left out. -/
lemma ofValue_maxOmitted (habsent : "max" ∉ members.map Prod.fst) :
    ofValue (.obj (("max", .null) :: members)) = .ok r ↔ ofValue (.obj members) = .ok r := by
  have hunset {p p' : Partial} (hp : p.max = none) (h : members.foldlM Partial.add p = .ok p') :
      p'.max = none := by
    induction members generalizing p with
    | nil => exact Except.ok.inj h ▸ hp
    | cons m rest ih =>
      rw [List.map_cons, List.mem_cons, not_or] at habsent
      obtain ⟨middle, hmiddle, hrest⟩ := Except.bind_eq_ok.1 h
      refine ih habsent.2 ?_ hrest
      rcases add_eq_ok.1 hmiddle with ⟨-, -, _, -, rfl⟩ | ⟨hname, -⟩ | ⟨-, rfl⟩
      · exact hp
      · exact absurd hname.symm habsent.1
      · exact hp
  have hadd {p : Partial} (hp : p.max = none) :
      p.add ("max", .null) = .ok { p with max := some none } :=
    add_eq_ok.2 (.inr (.inl ⟨rfl, hp, none, rfl, rfl⟩))
  have hfinish {p : Partial} (hp : p.max = none) :
      Partial.finish { p with max := some none } = p.finish := by
    rw [Partial.finish, Partial.finish, hp]
    rfl
  rw [ofValue_obj_eq_ok, ofValue_obj_eq_ok]
  exact exists_foldlM_cons_iff add_swap fun p hp =>
    ⟨{ p with max := some none }, hadd (hunset rfl hp), hfinish (hunset rfl hp)⟩

end Repeat

end Abnf
