import Abnf.Proofs.SpelledNodes

/-!
# Respelling texts

A text of a grammar is a document: fields with their contents, among them the values of definitions
(`Grammar.Document.Of`).  What the values are as nodes decides what the text is as a grammar
(`Grammar.ofText_eq_ok`), and hence the definitions of a text may be respelled
(`Grammar.ofText_respelled`).
-/

namespace Abnf

open Json

namespace Grammar

variable {rounds levels : Nat} {c n : Cursor}

/-! ## Listed references -/

/-- What stands under a name in a listed reference: the name of a rule, or something that means
nothing. -/
def ReferencePartAt (name : String) : Spelling (Option String) := fun c x n =>
  match x with
  | some rule => name = "name" ∧ TextAt c rule n
  | none => name ≠ "name" ∧ Passed c () n

/-- The parts of a reference are read as they are spelled. -/
lemma puts_reference (levels rounds : Nat) :
    referenceRecord.Puts ⟨levels, rounds⟩ ReferencePartAt fun state _ x => x.or state where
  field := by
    intro field hfield state c state' n hc
    obtain rfl := List.mem_singleton.1 hfield
    dsimp only
    rw [Reader.map_eq_ok]
    simp only [(describedBy_text rounds).iff hc]
    constructor
    · rintro ⟨rule, hrule, rfl⟩
      exact ⟨some rule, ⟨rfl, hrule⟩, rfl⟩
    · rintro ⟨x, hx, rfl⟩
      cases x with
      | some rule => exact ⟨rule, hx.2, rfl⟩
      | none => exact absurd rfl hx.1
  other := by
    intro name hname
    refine ⟨none, fun c x n => ?_, fun _ => rfl⟩
    have hname : name ≠ "name" := fun h => hname (List.mem_singleton.2 h)
    cases x <;> simp [ReferencePartAt, hname]
  shortens := by
    intro name c x n hx
    cases x with
    | some rule => exact (describedBy_text rounds).shortens hx.2
    | none => exact (describedBy_pass levels rounds).shortens hx.2
  isSet := by
    intro field hfield state name c x n hx
    obtain rfl := List.mem_singleton.1 hfield
    cases x with
    | some rule => simp [hx.1]
    | none => simp [Ne.symm hx.1]
  unset := by
    intro field hfield
    obtain rfl := List.mem_singleton.1 hfield
    rfl
  distinct := by decide

/-- A listed reference. -/
def ReferenceAt : Spelling String := fun c rule n =>
  ∃ parts, RecordOf referenceRecord.fields ReferencePartAt c parts n ∧
    referenceRecord.finish (parts.foldl (fun state part => part.2.or state) none) = .ok rule

lemma describedBy_reference (levels rounds : Nat) :
    Reader.DescribedBy rounds (Reader.record referenceRecord ⟨levels + 1, rounds⟩) ReferenceAt :=
  (puts_reference levels rounds).describedBy_record

lemma describedBy_references (levels rounds : Nat) :
    Reader.DescribedBy rounds
      (Reader.listOf (Reader.record referenceRecord) ⟨levels + 2, rounds⟩) (ListOf ReferenceAt) :=
  describedBy_listOf (describedBy_reference levels rounds)

/-! ## Documents -/

/-- What stands under a name in a text of a grammar, with definitions of some type. -/
inductive Content (α : Type) where
  /-- Definitions by their keys. -/
  | definitions (entries : List (String × α))
  /-- Listed references. -/
  | references (names : List String)
  /-- Something that means nothing. -/
  | other

/-- The contents of a text of a grammar, by their names and in their order. -/
abbrev Document (α : Type) := List (String × Content α)

/-- How the contents of a text are spelled, by their names. -/
def ContentAt {α : Type} (G : Spelling α) (name : String) : Spelling (Content α) := fun c x n =>
  match x with
  | .definitions entries => name = "defs" ∧ ObjectOf (fun _ => G) c entries n
  | .references names => name = "refs" ∧ ListOf ReferenceAt c names n
  | .other => name ≠ "defs" ∧ name ≠ "refs" ∧ Passed c () n

/-- Puts what stands under a name with what has been read. -/
def put (p : Partial) (_ : String) : Content Node → Partial
  | .definitions entries => { p with definitions := some (collect entries) }
  | .references names => { p with listed := some names }
  | .other => p

/-- The contents of a text are read as they are spelled. -/
lemma puts_content (levels rounds : Nat) :
    record.Puts ⟨levels + 2, rounds⟩ (ContentAt (Node.SpelledAs (levels + 1))) put where
  field := by
    intro field hfield p c p' n hc
    simp only [record, List.mem_cons, List.not_mem_nil, or_false] at hfield
    have hdefinitions := describedBy_dict (Node.describedBy_read rounds levels)
    have hreferences := describedBy_references levels rounds
    rcases hfield with rfl | rfl
    · dsimp only
      rw [Reader.map_eq_ok]
      simp only [hdefinitions.iff hc]
      constructor
      · rintro ⟨_, ⟨entries, hentries, rfl⟩, rfl⟩
        exact ⟨.definitions entries, ⟨rfl, hentries⟩, rfl⟩
      · rintro ⟨x, hx, rfl⟩
        cases x with
        | definitions entries => exact ⟨_, ⟨entries, hx.2, rfl⟩, rfl⟩
        | references names => exact absurd hx.1 (by decide)
        | other => exact absurd rfl hx.1
    · dsimp only
      rw [Reader.map_eq_ok]
      simp only [hreferences.iff hc]
      constructor
      · rintro ⟨names, hnames, rfl⟩
        exact ⟨.references names, ⟨rfl, hnames⟩, rfl⟩
      · rintro ⟨x, hx, rfl⟩
        cases x with
        | references names => exact ⟨names, hx.2, rfl⟩
        | definitions entries => exact absurd hx.1 (by decide)
        | other => exact absurd rfl hx.2.1
  other := by
    intro name hname
    obtain ⟨hdefinitions, hreferences⟩ : name ≠ "defs" ∧ name ≠ "refs" := by
      simpa [record] using hname
    refine ⟨.other, fun c x n => ?_, fun _ => rfl⟩
    cases x <;> simp [ContentAt, hdefinitions, hreferences]
  shortens := by
    intro name c x n hx
    cases x with
    | definitions entries =>
      exact Nat.le_of_lt (ObjectOf.length_lt hx.2 fun _ _ _ _ =>
        (Node.describedBy_read rounds levels).shortens)
    | references names => exact (describedBy_references levels rounds).shortens hx.2
    | other => exact (describedBy_pass levels rounds).shortens hx.2.2
  isSet := by
    intro field hfield p name c x n hx
    simp only [record, List.mem_cons, List.not_mem_nil, or_false] at hfield
    rcases hfield with rfl | rfl
    · cases x with
      | definitions entries => simp [put, hx.1]
      | references names => simp [put, hx.1]
      | other => simp [put, Ne.symm hx.1]
    · cases x with
      | definitions entries => simp [put, hx.1]
      | references names => simp [put, hx.1]
      | other => simp [put, Ne.symm hx.2.1]
  unset := by
    intro field hfield
    simp only [record, List.mem_cons, List.not_mem_nil, or_false] at hfield
    rcases hfield with rfl | rfl <;> rfl
  distinct := by decide

/-! ## Texts as documents -/

section Related

variable {α β γ : Type}

/-- Contents that are the same but for their definitions, which are related one by one. -/
inductive Content.Related (R : α → β → Prop) : Content α → Content β → Prop where
  /-- The keys are the same, and the definitions are related. -/
  | definitions {entries : List (String × α)} {entries' : List (String × β)}
      (h : List.Forall₂ (fun e e' => e.1 = e'.1 ∧ R e.2 e'.2) entries entries') :
      Related R (.definitions entries) (.definitions entries')
  /-- The references are the same. -/
  | references (names : List String) : Related R (.references names) (.references names)
  /-- Nothing is meant either way. -/
  | other : Related R .other .other

/-- Documents that are the same but for their definitions, which are related one by one. -/
def Document.Related (R : α → β → Prop) (doc : Document α) (doc' : Document β) : Prop :=
  List.Forall₂ (fun part part' => part.1 = part'.1 ∧ part.2.Related R part'.2) doc doc'

lemma forall₂_of_related {κ : Type} {R : α → β → Prop} {S : α → γ → Prop} {T : γ → β → Prop}
    (h : ∀ a b c, S a c → R a b → T c b) {as : List (κ × α)} {bs : List (κ × β)}
    {cs : List (κ × γ)} (hS : List.Forall₂ (fun p q => p.1 = q.1 ∧ S p.2 q.2) as cs)
    (hR : List.Forall₂ (fun p q => p.1 = q.1 ∧ R p.2 q.2) as bs) :
    List.Forall₂ (fun p q => p.1 = q.1 ∧ T p.2 q.2) cs bs := by
  induction hS generalizing bs with
  | nil =>
    cases hR
    exact .nil
  | cons hac _ ih =>
    obtain _ | ⟨hab, hrest⟩ := hR
    exact .cons ⟨hac.1.symm.trans hab.1, h _ _ _ hac.2 hab.2⟩ (ih hrest)

/-- What definitions are related to stays the same for definitions that are related to them. -/
lemma Document.Related.of_related {R : α → β → Prop} {S : α → γ → Prop} {T : γ → β → Prop}
    (h : ∀ a b c, S a c → R a b → T c b) {doc : Document α} {nodes : Document β}
    {doc' : Document γ} (hS : doc.Related S doc') (hR : doc.Related R nodes) :
    doc'.Related T nodes := by
  refine forall₂_of_related (fun x y z hxz hxy => ?_) hS hR
  cases hxz with
  | definitions hentries =>
    obtain ⟨hentries'⟩ := hxy
    exact .definitions (forall₂_of_related h hentries hentries')
  | references names =>
    cases hxy
    exact .references names
  | other =>
    cases hxy
    exact .other

end Related

/-- A text is a document, its definitions being values.  A definition may be as deep as a text but
for the two objects around it. -/
def Document.Of (doc : Document Value) (text : String) : Prop :=
  WholeText (RecordOf record.fields (ContentAt (Spelled 125))) text doc

/-- The grammar that a document makes up, if each of its definitions is a node. -/
def Document.Makes (doc : Document Value) (g : Grammar) : Prop :=
  ∃ nodes : Document Node,
    doc.Related (fun v node => Node.Named v ∧ Node.ofValue v = .ok node) nodes ∧
      record.finish (nodes.foldl (fun p part => put p part.1 part.2) {}) = .ok g

/-- The values of the definitions are spelled where the nodes are. -/
lemma exists_content {name : String} {x : Content Node}
    (hx : ContentAt (Node.SpelledAs levels) name c x n) :
    ∃ y, ContentAt (Spelled levels) name c y n ∧
      y.Related (fun v node => Node.Named v ∧ Node.ofValue v = .ok node) x := by
  cases x with
  | definitions entries =>
    obtain ⟨hname, hentries⟩ := hx
    obtain ⟨values, hvalues, hrelated⟩ := ObjectOf.exists_related (fun _ _ _ _ h => h) hentries
    exact ⟨.definitions values, ⟨hname, hvalues⟩, .definitions hrelated⟩
  | references names => exact ⟨.references names, hx, .references names⟩
  | other => exact ⟨.other, hx, .other⟩

/-- The nodes are spelled where the values of the definitions are. -/
lemma content_of_related {name : String} {y : Content Value} {x : Content Node}
    (h : y.Related (fun v node => Node.Named v ∧ Node.ofValue v = .ok node) x)
    (hy : ContentAt (Spelled levels) name c y n) :
    ContentAt (Node.SpelledAs levels) name c x n := by
  cases h with
  | definitions h =>
    refine ⟨hy.1, ObjectOf.transfer hy.2 (h.imp fun e e' he => ⟨he.1, fun c n hv => ?_⟩)⟩
    exact ⟨e.2, hv, he.2⟩
  | references names => exact hy
  | other => exact hy

/-- A text is read as the grammar that the document which it is makes up. -/
theorem ofText_eq_ok {text : String} {g : Grammar} :
    ofText text = .ok g ↔ ∃ doc : Document Value, doc.Of text ∧ doc.Makes g := by
  have hparse : ofText text = .ok g ↔ parse text = .ok g := by
    rw [ofText]
    cases parse text <;> simp [Except.mapError]
  have hrecord := (puts_content 124 (text.length + 1)).describedBy_record
  rw [hparse]
  refine (Reader.DescribedBy.readText_eq_ok (r := read) hrecord).trans ?_
  constructor
  · rintro ⟨n, ⟨nodes, hnodes, hfinish⟩, hn⟩
    obtain ⟨doc, hdoc, hrelated⟩ :=
      RecordOf.exists_related (fun _ _ _ _ h => exists_content h) hnodes
    exact ⟨doc, ⟨n, hdoc, hn⟩, nodes, hrelated, hfinish⟩
  · rintro ⟨doc, ⟨n, hdoc, hn⟩, nodes, hrelated, hfinish⟩
    refine ⟨n, ⟨nodes, hdoc.transfer (hrelated.imp fun p q hpq => ?_), hfinish⟩, hn⟩
    exact ⟨hpq.1, fun c n hp => hpq.1 ▸ content_of_related hpq.2 hp⟩

lemma eq_of_forall₂ {κ α : Type} {ps qs : List (κ × α)}
    (h : List.Forall₂ (fun p q => p.1 = q.1 ∧ p.2 = q.2) ps qs) : ps = qs := by
  rw [← List.forall₂_eq_eq_eq]
  exact h.imp fun p q hpq => Prod.ext hpq.1 hpq.2

/-- Contents at the same place are the same. -/
lemma content_unique {name : String} {x y : Content Value} {n' : Cursor}
    (hx : ContentAt (Spelled levels) name c x n) (hy : ContentAt (Spelled levels) name c y n') :
    x = y ∧ n = n' := by
  cases x with
  | definitions entries =>
    cases y with
    | definitions entries' =>
      have hvalue : ∀ (_ : String) c v n v' n', Spelled levels c v n → Spelled levels c v' n' →
          v = v' ∧ n = n' := fun _ _ _ _ _ _ => Spelled.unique
      obtain ⟨hentries, hn⟩ := ObjectOf.related hvalue hx.2 hy.2
      exact ⟨congrArg _ (eq_of_forall₂ hentries), hn⟩
    | references names => exact absurd (hx.1.symm.trans hy.1) (by decide)
    | other => exact absurd hx.1 hy.1
  | references names =>
    cases y with
    | references names' =>
      obtain ⟨hnames, hn⟩ :=
        Reader.DescribedBy.unique (fun rounds => describedBy_references 0 rounds) hx.2 hy.2
      exact ⟨congrArg _ hnames, hn⟩
    | definitions entries => exact absurd (hx.1.symm.trans hy.1) (by decide)
    | other => exact absurd hx.1 hy.2.1
  | other =>
    cases y with
    | other =>
      exact ⟨rfl, (Reader.DescribedBy.unique (fun rounds => describedBy_pass 0 rounds)
        hx.2.2 hy.2.2).2⟩
    | definitions entries => exact absurd hy.1 hx.1
    | references names => exact absurd hy.1 hx.2.1

/-- A text is one document only. -/
lemma Document.Of.unique {doc doc' : Document Value} {text : String} (h : doc.Of text)
    (h' : doc'.Of text) : doc = doc' := by
  obtain ⟨_, hdoc, -⟩ := h
  obtain ⟨_, hdoc', -⟩ := h'
  have hcontent : ∀ name c x n y n', ContentAt (Spelled 125) name c x n →
      ContentAt (Spelled 125) name c y n' → x = y ∧ n = n' := fun _ _ _ _ _ _ => content_unique
  exact eq_of_forall₂ (RecordOf.related hcontent hdoc hdoc').1

/-- **Spelling does not matter.**  A text that is read as a grammar is a document.  If each of its
definitions is respelled, at any places and at any depth, by any number of changes, then every text
that is the new document is read as the same grammar, with the same definitions in the same order.
The changes are those of `Respelling`: members in another order, or with names that mean nothing;
another name of a kind; lists in place of objects; a base or a greatest number left out that is
`null`; and the reverse of these.  That a text is a document sets the one limit: a definition may
not be too deep to be read. -/
theorem ofText_respelled {text : String} {g : Grammar} (h : ofText text = .ok g) :
    (∃ doc : Document Value, doc.Of text) ∧
      ∀ (doc doc' : Document Value) (text' : String), doc.Of text →
        doc.Related (Respelled .child) doc' → doc'.Of text' → ofText text' = .ok g := by
  obtain ⟨doc, hdoc, nodes, hnodes, hfinish⟩ := ofText_eq_ok.1 h
  refine ⟨⟨doc, hdoc⟩, fun other doc' text' hother hrelated hdoc' => ?_⟩
  obtain rfl := hdoc.unique hother
  -- The nodes of the old definitions are those of the new ones.
  refine ofText_eq_ok.2 ⟨doc', hdoc', nodes, hrelated.of_related ?_ hnodes, hfinish⟩
  rintro v node v' hv ⟨hnamed, hnode⟩
  exact ⟨(Node.named_iff_of_respelled hv).1 hnamed, hv.ofValue_eq_ok.1 hnode⟩

/-- An object of definitions is a document. -/
lemma Document.of_value {text : String} {entries : List (String × Value)}
    (h : readText Reader.value text = .ok (.obj [("defs", .obj entries)])) :
    Document.Of [("defs", .definitions entries)] text := by
  obtain ⟨n, hspelled, hn⟩ :=
    (Reader.DescribedBy.readText_eq_ok (Reader.describedBy_value _ 127)).1 h
  have hmembers := spelled_obj_iff.1 hspelled
  refine ⟨n, .inl ⟨ObjectOf.transfer hmembers (.cons ⟨rfl, fun c n hc => ?_⟩ .nil),
    List.nodup_singleton "defs"⟩, hn⟩
  exact ⟨rfl, spelled_obj_iff.1 hc⟩

/-- A repeated literal, in which everything is written out. -/
def plain : String :=
  "\x7b\"defs\":\x7b\"a\":\x7b\"type\":\"repetition\",\"el\":\x7b" ++
    "\"type\":\"caseSensitiveString\",\"str\":\"x\",\"base\":null\x7d," ++
    "\"rep\":\x7b\"min\":1,\"max\":null\x7d\x7d\x7d\x7d"

/-- The literal, written out. -/
def plainLiteral : Value :=
  .obj [("type", .str "caseSensitiveString"), ("str", .str "x"), ("base", .null)]

/-- The bounds, written out. -/
def plainBounds : Value := .obj [("min", .int (.ofNat 1)), ("max", .null)]

/-- The definition, written out. -/
def plainRepetition : Value :=
  .obj [("type", .str "repetition"), ("el", plainLiteral), ("rep", plainBounds)]

/-- The same literal in other words, as a list. -/
def respelled : String :=
  "\x7b\"defs\":\x7b\"a\":[\"repetition\",\x7b\"k\":[],\"str\":\"x\"," ++
    "\"type\":\"caseSensitveString\"\x7d,[1]]\x7d\x7d"

/-- The literal with a member that means nothing, the name of its kind at the end. -/
def respelledLiteral : Value :=
  .obj [("k", .arr []), ("str", .str "x"), ("type", .str "caseSensitveString")]

/-- The bounds as a list. -/
def respelledBounds : Value := .arr [.int (.ofNat 1)]

/-- The definition as a list. -/
def respelledRepetition : Value := .arr [.str "repetition", respelledLiteral, respelledBounds]

lemma respelled_literal : Respelled .child plainLiteral respelledLiteral := by
  have hkind : Node.kindOfMembers none [("str", .str "x"), ("type", .str "caseSensitveString")] =
      .ok (.literal .sensitive) := rfl
  have hrenamed : Respelling .child plainLiteral
      (.obj [("type", .str "caseSensitveString"), ("str", .str "x"), ("base", .null)]) :=
    .renamed rfl rfl
  have hpermuted : Respelling .child
      (.obj [("type", .str "caseSensitveString"), ("str", .str "x"), ("base", .null)])
      (.obj [("base", .null), ("str", .str "x"), ("type", .str "caseSensitveString")]) :=
    .permuted (List.reverse_perm _).symm
  have homitted : Respelling .child
      (.obj [("base", .null), ("str", .str "x"), ("type", .str "caseSensitveString")])
      (.obj [("str", .str "x"), ("type", .str "caseSensitveString")]) :=
    .baseOmitted hkind (by decide)
  have hextended : Respelling .child
      (.obj [("str", .str "x"), ("type", .str "caseSensitveString")]) respelledLiteral :=
    .extended hkind (by decide)
  exact (((Respelled.of_respelling hrenamed).trans (.of_respelling hpermuted)).trans
    (.of_respelling homitted)).trans (.of_respelling hextended)

lemma respelled_bounds : Respelled .bounds plainBounds respelledBounds := by
  have hpermuted : Respelling .bounds plainBounds
      (.obj [("max", .null), ("min", .int (.ofNat 1))]) := .boundsPermuted (.swap _ _ _)
  have homitted : Respelling .bounds (.obj [("max", .null), ("min", .int (.ofNat 1))])
      (.obj [("min", .int (.ofNat 1))]) := .maxOmitted (by decide)
  have hlisted : Respelling .bounds (.obj [("min", .int (.ofNat 1))]) respelledBounds :=
    .boundsListed (by decide)
  exact ((Respelled.of_respelling hpermuted).trans (.of_respelling homitted)).trans
    (.of_respelling hlisted)

lemma respelled_repetition : Respelled .child plainRepetition respelledRepetition := by
  have hfirst : Respelling .child plainRepetition
      (.obj [("el", plainLiteral), ("type", .str "repetition"), ("rep", plainBounds)]) :=
    .permuted (.swap _ _ _)
  have helement : Respelled .child
      (.obj [("el", plainLiteral), ("type", .str "repetition"), ("rep", plainBounds)])
      (.obj [("el", respelledLiteral), ("type", .str "repetition"), ("rep", plainBounds)]) :=
    .field rfl rfl respelled_literal
  have hlast : Respelling .child
      (.obj [("el", respelledLiteral), ("type", .str "repetition"), ("rep", plainBounds)])
      (.obj [("rep", plainBounds), ("el", respelledLiteral), ("type", .str "repetition")]) :=
    .permuted (List.perm_append_singleton _ [("el", respelledLiteral), ("type", .str "repetition")])
  have hbounds : Respelled .child
      (.obj [("rep", plainBounds), ("el", respelledLiteral), ("type", .str "repetition")])
      (.obj [("rep", respelledBounds), ("el", respelledLiteral), ("type", .str "repetition")]) :=
    .field rfl rfl respelled_bounds
  have hreversed : Respelling .child
      (.obj [("rep", respelledBounds), ("el", respelledLiteral), ("type", .str "repetition")])
      (.obj [("type", .str "repetition"), ("el", respelledLiteral), ("rep", respelledBounds)]) :=
    .permuted (List.reverse_perm _).symm
  have hlisted : Respelling .child
      (.obj [("type", .str "repetition"), ("el", respelledLiteral), ("rep", respelledBounds)])
      respelledRepetition := .listed rfl (by decide)
  exact (((((Respelled.of_respelling hfirst).trans helement).trans (.of_respelling hlast)).trans
    hbounds).trans (.of_respelling hreversed)).trans (.of_respelling hlisted)

/-- The grammar that both texts describe. -/
def repeated : Grammar where
  definitions :=
    { entries := [("a", .repetition (.literal .sensitive "x" none) ⟨1, none⟩)]
      distinct := by decide }
  listed := []

lemma ofText_plain : ofText plain = .ok repeated :=
  ofText_eq_ok_of_compact (by decide) (by decide +kernel)

lemma of_plain : Document.Of [("defs", .definitions [("a", plainRepetition)])] plain := by
  have htext : plain = (Value.obj [("defs", .obj [("a", plainRepetition)])]).compact := by
    decide +kernel
  have hliteral : plainLiteral.Plain := .obj (by simp [Value.Plain.str, Value.Plain.null])
  have hbounds : plainBounds.Plain :=
    .obj (by simpa [Value.Plain.null] using Value.Plain.int (n := 1) (by decide))
  have hrepetition : plainRepetition.Plain :=
    .obj (by simp [Value.Plain.str, hliteral, hbounds])
  refine Document.of_value ?_
  rw [htext]
  exact readText_compact (.obj (by simp [Value.Plain.obj, hrepetition])) (by decide)

lemma of_respelled :
    Document.Of [("defs", .definitions [("a", respelledRepetition)])] respelled := by
  have htext : respelled = (Value.obj [("defs", .obj [("a", respelledRepetition)])]).compact := by
    decide +kernel
  have hliteral : respelledLiteral.Plain := .obj (by simp [Value.Plain.str, Value.Plain.arr])
  have hbounds : respelledBounds.Plain :=
    .arr (by simpa using Value.Plain.int (n := 1) (by decide))
  have hrepetition : respelledRepetition.Plain :=
    .arr (by simp [Value.Plain.str, hliteral, hbounds])
  refine Document.of_value ?_
  rw [htext]
  exact readText_compact (.obj (by simp [Value.Plain.obj, hrepetition])) (by decide)

/-- Two texts of one grammar, which differ in every way in which texts can be spelled. -/
theorem ofText_respelled_list :
    ofText plain = .ok repeated ∧
    Document.Of [("defs", .definitions [("a", plainRepetition)])] plain ∧
    Document.Related (Respelled .child) [("defs", .definitions [("a", plainRepetition)])]
      [("defs", .definitions [("a", respelledRepetition)])] ∧
    Document.Of [("defs", .definitions [("a", respelledRepetition)])] respelled ∧
    ofText respelled = .ok repeated := by
  have hrelated : Document.Related (Respelled .child)
      [("defs", .definitions [("a", plainRepetition)])]
      [("defs", .definitions [("a", respelledRepetition)])] :=
    .cons ⟨rfl, .definitions (.cons ⟨rfl, respelled_repetition⟩ .nil)⟩ .nil
  exact ⟨ofText_plain, of_plain, hrelated, of_respelled,
    (ofText_respelled ofText_plain).2 _ _ _ of_plain hrelated of_respelled⟩

end Grammar

end Abnf
