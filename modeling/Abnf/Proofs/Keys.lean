import Abnf.Proofs.Names

/-!
# Keys and names

A definition has a key in the grammar and, if it is a rule, a name of its own, and nothing makes the
two the same.  A rule is shown under its name, but it is found by its key, and it is the keys that
can be entry points.  Whether a rule is marked as an entry point therefore depends on the keys that
are the same as its name in uppercase (`entryPoint_of_all`), and asking for a rule by its name leads
back to it if its key is the first that is the same as the name, up to the case of ASCII letters
(`rule_of_all`).  Where a key is unlike the name of its rule, or not the first of its kind, this may
go wrong (`not_marked_misfiled`, `not_found_shadowed`).
-/

namespace Abnf

section Lookup

variable {α : Type}

/-- What is found under a key stands where the key does. -/
lemma map_snd_find? (p : String → Bool) (entries : List (String × α)) :
    (entries.find? fun entry => p entry.1).map Prod.snd =
      ((entries.map Prod.fst).findIdx? p).bind fun i => (entries.map Prod.snd)[i]? := by
  induction entries with
  | nil => rfl
  | cons entry rest ih =>
    rw [List.find?_cons, List.map_cons, List.findIdx?_cons]
    cases p entry.1 with
    | true => rfl
    | false =>
      rw [if_neg (by decide), Option.bind_map]
      exact ih

lemma getElem?_of_forall₂ {β : Type} {R : α → β → Prop} {as : List α} {bs : List β}
    (h : List.Forall₂ R as bs) {i : Nat} {a : α} (ha : as[i]? = some a) :
    ∃ b, bs[i]? = some b ∧ R a b := by
  obtain ⟨hlength, hget⟩ := List.forall₂_iff_get.1 h
  obtain ⟨hi, rfl⟩ := List.getElem?_eq_some_iff.1 ha
  exact ⟨bs[i], List.getElem?_eq_getElem (hlength ▸ hi), hget i hi (hlength ▸ hi)⟩

end Lookup

lemma Text.sameName_congr {a b : String} (h : sameName a b = true) (key : String) :
    sameName key a = sameName key b := by
  rw [sameName, sameName, beq_iff_eq.1 h]

namespace Grammar

variable {g : Grammar} {name : String}

/-- Where the first key stands that is the same as a name up to the case of ASCII letters. -/
def firstKey? (g : Grammar) (name : String) : Option Nat :=
  g.definitions.keys.findIdx? fun key => Text.sameName key name

lemma get?_eq (g : Grammar) (name : String) :
    g.get? name = (g.firstKey? name).bind fun i => g.nodes[i]? :=
  map_snd_find? (fun key => Text.sameName key name) g.definitions.entries

lemma firstKey?_congr {other : String} (h : Text.sameName other name = true) :
    g.firstKey? other = g.firstKey? name := by
  simp only [firstKey?, Text.sameName_congr h]

/-- A name is an entry point if it is the same as a key in uppercase, and no reference is. -/
lemma contains_entryPoints_iff_exists_key :
    g.entryPoints.contains name = true ↔
      (∃ key ∈ g.definitions.keys, Text.uppercase key = Text.uppercase name) ∧
        ∀ n ∈ g.referencedNames, Text.uppercase n ≠ Text.uppercase name := by
  have hcontains : ∀ key, Text.uppercase key = Text.uppercase name →
      g.entryPoints.contains name = g.entryPoints.contains key := fun key heq => by
    rw [EntryPoints.contains, EntryPoints.contains, heq]
  constructor
  -- What is known of a name that belongs to the set is only that some key in it has its uppercase.
  · intro h
    obtain ⟨key, hkey, heq⟩ :=
      (EntryPoints.mem_names_ofNames _ _).1 (EntryPoints.contains_iff _ _ |>.1 h)
    obtain ⟨hmem, -⟩ := List.mem_filter.1 hkey
    rw [hcontains key heq.symm, contains_entryPoints_iff hmem, ← heq] at h
    exact ⟨⟨key, hmem, heq.symm⟩, h⟩
  · rintro ⟨⟨key, hkey, heq⟩, hfree⟩
    rwa [hcontains key heq, contains_entryPoints_iff hkey, heq]

/-- A name is referred to if it is listed or, where nothing is listed, if some definition holds a
reference to it. -/
lemma mem_referencedNames_iff :
    name ∈ g.referencedNames ↔
      if g.listed = [] then ∃ node ∈ g.nodes, .reference name ∈ node.subtrees
      else name ∈ g.listed := by
  rw [referencedNames]
  cases g.listed with
  | nil =>
    simp only [List.isEmpty_nil, if_true, List.mem_flatMap, Node.referencedNames_eq,
      Node.mem_references]
  | cons first rest => simp

end Grammar

namespace Renderer

variable {g : Grammar} {d : Dependencies} {options : Options} {markup : Markup} {R : Rendering}

/-- Where a rule is declared, it is shown. -/
lemma exists_shown_at (h : (Renderer.mk g d options).all markup = .ok R) {i : Nat} {name : String}
    {definition : Node} (hi : g.nodes[i]? = some (.rule name definition)) :
    ∃ rule, R.rules[i]? = some rule ∧ rule.name = name ∧
      rule.entryPoint = g.entryPoints.contains name := by
  obtain ⟨rule, hrule, hnode⟩ := getElem?_of_forall₂ (forall₂_of_all h) hi
  obtain ⟨_, _, hdefinition, -, -, -, hentry, -⟩ := parts_of_node hnode
  obtain ⟨rfl, -⟩ := Node.rule.inj hdefinition
  exact ⟨rule, hrule, rfl, hentry⟩

/-- **Entry points are rules that nothing refers to.**  When all rules of a grammar are shown, in the
order of the definitions, a rule is marked as an entry point if and only if some key of the grammar
is the same as its name in uppercase and no name that is referred to is.  For a rule whose own key
is the same as its name in uppercase, only the names that are referred to decide.  These are the
names that are listed or, if none is, all references in the definitions, those of a rule to itself
among them. -/
theorem entryPoint_of_all (h : (Renderer.mk g d options).all markup = .ok R) :
    List.Forall₂ (fun entry rule => entry.2.ruleName = some rule.name ∧
      (rule.entryPoint = true ↔
        (∃ key ∈ g.definitions.keys, Text.uppercase key = Text.uppercase rule.name) ∧
          ∀ n ∈ g.referencedNames, Text.uppercase n ≠ Text.uppercase rule.name) ∧
      (Text.uppercase entry.1 = Text.uppercase rule.name →
        (rule.entryPoint = true ↔
          ∀ n ∈ g.referencedNames, Text.uppercase n ≠ Text.uppercase rule.name)))
      g.definitions.entries R.rules ∧
    ∀ n, n ∈ g.referencedNames ↔
      if g.listed = [] then ∃ node ∈ g.nodes, .reference n ∈ node.subtrees else n ∈ g.listed := by
  refine ⟨?_, fun n => Grammar.mem_referencedNames_iff⟩
  have hrules := forall₂_of_all h
  rw [Grammar.nodes, Dict.values, List.forall₂_map_left_iff] at hrules
  have hkeys : ∀ entry ∈ g.definitions.entries, entry.1 ∈ g.definitions.keys :=
    fun entry hentry => List.mem_map_of_mem hentry
  refine ((List.forall₂_and_left _ _).2 ⟨hkeys, hrules⟩).imp fun entry rule hshown => ?_
  obtain ⟨hkey, hnode⟩ := hshown
  obtain ⟨definition, _, hdefinition, -, -, -, hentry, -⟩ := parts_of_node hnode
  have hname : entry.2.ruleName = some rule.name := by rw [hdefinition]; rfl
  rw [hentry]
  refine ⟨hname, Grammar.contains_entryPoints_iff_exists_key, fun heq => ?_⟩
  rw [Grammar.contains_entryPoints_iff_exists_key]
  exact ⟨And.right, fun hfree => ⟨⟨entry.1, hkey, heq⟩, hfree⟩⟩

/-- Nothing refers to the hours of the clock, and they refer to the digits. -/
theorem entryPoint_of_all_clock :
    ∃ R, (Renderer.mk clock .none {}).all .plain = .ok R ∧
      List.Forall₂ (fun point rule => rule.name = point.1 ∧ rule.entryPoint = point.2)
        [("hours", true), ("Digit", false)] R.rules := by
  obtain ⟨R, hR⟩ := (Renderer.mk clock .none {}).exists_all .plain (by decide)
  obtain ⟨hrules, -⟩ := entryPoint_of_all hR
  have hreferenced : clock.referencedNames = ["DIGIT", "a<b"] := by
    simp [Grammar.referencedNames, Grammar.nodes, Dict.values, clock, hours,
      Node.referencedNames_eq, Node.references, Node.referencesAll]
  rw [hreferenced] at hrules
  refine ⟨R, hR, ?_⟩
  generalize R.rules = rules at hrules
  obtain _ | ⟨⟨hhours, -, hentry⟩, _ | ⟨⟨hdigit, -, hreferred⟩, _ | _⟩⟩ := hrules
  rw [← Option.some.inj hhours] at hentry
  rw [← Option.some.inj hdigit] at hreferred
  refine .cons ⟨(Option.some.inj hhours).symm, (hentry rfl).2 (by decide)⟩
    (.cons ⟨(Option.some.inj hdigit).symm, ?_⟩ .nil)
  rw [← Bool.not_eq_true, hreferred (by decide)]
  decide

/-- A grammar of one rule, under a key that is not its name. -/
def misfiled : Grammar :=
  ⟨⟨[("a", .rule "b" (.prose "x"))], by decide⟩, []⟩

/-- Nothing is referred to, but the only rule that is shown is not marked. -/
theorem not_marked_misfiled :
    Grammar.ofText misfiled.toValue.compact = .ok misfiled ∧ misfiled.referencedNames = [] ∧
      ∃ R, (Renderer.mk misfiled .none {}).all .plain = .ok R ∧
        ∃ rule ∈ R.rules, rule.name = "b" ∧ rule.entryPoint = false ∧
          ¬ (rule.entryPoint = true ↔
            ∀ n ∈ misfiled.referencedNames, Text.uppercase n ≠ Text.uppercase rule.name) := by
  have hreferenced : misfiled.referencedNames = [] := by
    simp [Grammar.referencedNames, Grammar.nodes, Dict.values, misfiled, Node.referencedNames_eq,
      Node.references]
  obtain ⟨R, hR⟩ := (Renderer.mk misfiled .none {}).exists_all .plain (by decide)
  obtain ⟨rule, hrule, hname, hentry⟩ := exists_shown_at (i := 0) hR rfl
  have hunmarked : rule.entryPoint = false := by
    rw [hentry, ← Bool.not_eq_true, Grammar.contains_entryPoints_iff_exists_key]
    exact fun hmarked => absurd hmarked.1 (by decide)
  refine ⟨Grammar.ofText_compact (by decide), hreferenced, R, hR, rule,
    List.mem_of_getElem? hrule, hname, hunmarked, fun hiff => ?_⟩
  have hmarked : rule.entryPoint = true := hiff.2 (by simp [hreferenced])
  rw [hunmarked] at hmarked
  cases hmarked

/-- What stands at the first key that is the same as a name is the answer for the name. -/
lemma rule_of_firstKey? (h : (Renderer.mk g d options).all markup = .ok R) {s : String} {i : Nat}
    (hi : g.firstKey? s = some i) :
    ∃ rule, R.rules[i]? = some rule ∧ (Renderer.mk g d options).rule s markup = .ok rule := by
  have hbound : i < g.nodes.length := by
    obtain ⟨hkeys, -⟩ := List.findIdx?_eq_some_iff_getElem.1 hi
    rwa [Dict.keys, List.length_map, ← List.length_map] at hkeys
  have hnode : g.nodes[i]? = some g.nodes[i] := List.getElem?_eq_getElem hbound
  have hget : g.get? s = some g.nodes[i] := by rw [g.get?_eq, hi, Option.bind_some, hnode]
  obtain ⟨rule, hrule, hok⟩ := getElem?_of_forall₂ (forall₂_of_all h) hnode
  refine ⟨rule, hrule, ?_⟩
  rw [Renderer.rule, hget]
  exact hok

lemma rule_of_firstKey?_eq_none {s : String} (h : g.firstKey? s = none) :
    (Renderer.mk g d options).rule s markup = .error (.unknownRule s) := by
  refine rule_eq_unknownRule_iff.2 ⟨?_, rfl⟩
  rw [Grammar.get?_eq, h, Option.bind_none]

/-- **Rules that are asked for by name.**  When all rules of a grammar are shown, with whatever
dependencies, options and markup, they stand in the order of the keys, and whatever name is asked
for, the answer is the rule that stands where the first key is that is the same as the name up to
the case of ASCII letters; there is no rule of this name if no key is.  So a rule is what is answered
for its name, and for its name with letters of ASCII in another case, if its own key is the first
that is the same as the name. -/
theorem rule_of_all (h : (Renderer.mk g d options).all markup = .ok R) :
    R.rules.length = g.definitions.keys.length ∧
    (∀ s i, g.firstKey? s = some i → ∃ rule, R.rules[i]? = some rule ∧
      (Renderer.mk g d options).rule s markup = .ok rule) ∧
    (∀ s, g.firstKey? s = none →
      (Renderer.mk g d options).rule s markup = .error (.unknownRule s)) ∧
    ∀ i rule, R.rules[i]? = some rule → g.firstKey? rule.name = some i →
      ∀ s, Text.sameName s rule.name = true →
        (Renderer.mk g d options).rule s markup = .ok rule := by
  refine ⟨?_, fun s i => rule_of_firstKey? h, fun s => rule_of_firstKey?_eq_none, ?_⟩
  · rw [← (forall₂_of_all h).length_eq, Grammar.nodes, Dict.values, Dict.keys, List.length_map,
      List.length_map]
  · intro i rule hrule hi s hsame
    obtain ⟨found, hfound, hok⟩ := rule_of_firstKey? h ((Grammar.firstKey?_congr hsame).trans hi)
    rw [hrule] at hfound
    obtain rfl := Option.some.inj hfound
    exact hok

/-- The digits of the clock are answered for their key as it is and for their name in uppercase. -/
theorem rule_of_all_clock :
    ∃ R, (Renderer.mk clock .none {}).all .plain = .ok R ∧
      ∃ rule, R.rules[1]? = some rule ∧ rule.name = "Digit" ∧
        (Renderer.mk clock .none {}).rule "DIGIT" .plain = .ok rule := by
  obtain ⟨R, hR⟩ := (Renderer.mk clock .none {}).exists_all .plain (by decide)
  obtain ⟨rule, hrule, hname, -⟩ := exists_shown_at (i := 1) hR rfl
  obtain ⟨-, -, -, hnamed⟩ := rule_of_all hR
  refine ⟨R, hR, rule, hrule, hname, hnamed 1 rule hrule ?_ "DIGIT" ?_⟩
  · rw [hname]
    decide
  · rw [hname]
    decide

/-- A grammar of two rules under keys that are the same but for their case, and one under a key that
is not its name. -/
def shadowed : Grammar :=
  ⟨⟨[("a", .rule "a" (.prose "x")), ("A", .rule "A" (.prose "y")), ("k", .rule "b" (.prose "z"))],
    by decide⟩, []⟩

/-- For the name of the second rule the first one is answered, and for the name of the third there
is no rule. -/
theorem not_found_shadowed :
    Grammar.ofText shadowed.toValue.compact = .ok shadowed ∧
      ∃ R, (Renderer.mk shadowed .none {}).all .plain = .ok R ∧
        (∃ rule ∈ R.rules, rule.name = "A" ∧
          (Renderer.mk shadowed .none {}).rule rule.name .plain ≠ .ok rule) ∧
        ∃ rule ∈ R.rules, rule.name = "b" ∧
          (Renderer.mk shadowed .none {}).rule rule.name .plain = .error (.unknownRule "b") := by
  obtain ⟨R, hR⟩ := (Renderer.mk shadowed .none {}).exists_all .plain (by decide)
  obtain ⟨first, hfirst, hfirstName, -⟩ := exists_shown_at (i := 0) hR rfl
  obtain ⟨second, hsecond, hsecondName, -⟩ := exists_shown_at (i := 1) hR rfl
  obtain ⟨third, hthird, hthirdName, -⟩ := exists_shown_at (i := 2) hR rfl
  have hkey : shadowed.firstKey? "A" = some 0 := by decide
  obtain ⟨found, hfound, hok⟩ := rule_of_firstKey? hR hkey
  obtain rfl := Option.some.inj (hfirst.symm.trans hfound)
  refine ⟨Grammar.ofText_compact (by decide), R, hR,
    ⟨second, List.mem_of_getElem? hsecond, hsecondName, ?_⟩,
    third, List.mem_of_getElem? hthird, hthirdName, ?_⟩
  · rw [hsecondName, hok]
    intro heq
    rw [← Except.ok.inj heq, hfirstName] at hsecondName
    exact absurd hsecondName (by decide)
  · rw [hthirdName]
    exact rule_of_firstKey?_eq_none (by decide)

end Renderer

end Abnf
