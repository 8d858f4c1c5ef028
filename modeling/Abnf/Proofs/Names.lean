import Mathlib
import Abnf.Proofs.Anchors
import Abnf.Proofs.Faults
import Abnf.Proofs.RoundTrip

/-!
# Two ways to compare names

A reference is resolved without regard to the case of ASCII letters; entry points are found by
comparing names in uppercase, which changes letters outside ASCII, too.  Names that are the same in
the first way are the same in the second, and the converse holds where the names differ in ASCII
characters only (`sameName_iff_uppercase`).  So the definition that a reference is resolved to is
never an entry point, and what keeps a key from being an entry point is a reference to it, unless a
letter outside ASCII is written in another case (`resolved_iff`, `not_resolved_accented`).
-/

namespace Abnf

namespace Text

/-- Two names of the same length that differ, if they do, in ASCII characters. -/
def AsciiApart (a b : String) : Prop :=
  List.Forall₂ (fun c d => c = d ∨ c.toNat < 128 ∧ d.toNat < 128) a.toList b.toList

/-- No character of the name outside ASCII has another uppercase form. -/
def Plain (name : String) : Prop :=
  ∀ c ∈ name.toList, 128 ≤ c.toNat → uppercaseChar c = [c]

section Chars

variable {c d : Char}

lemma toLower_eq_iff : c.toLower = d.toLower ↔ c.toUpper = d.toUpper := by
  constructor
  · intro h
    rw [← c.toUpper_toLower_eq_toUpper, h, d.toUpper_toLower_eq_toUpper]
  · intro h
    rw [← c.toLower_toUpper_eq_toLower, h, d.toLower_toUpper_eq_toLower]

lemma toUpper_of_not_ascii (h : 128 ≤ c.toNat) : c.toUpper = c := by
  have hlower : ¬ c.isLower = true := by
    simp [Char.isLower, UInt32.le_iff_toNat_le]
    omega
  exact Char.toUpper_eq_of_not_isLower hlower

lemma toUpper_ascii (h : c.toNat < 128) : c.toUpper.toNat < 128 := by
  by_cases hlower : c.isLower = true
  · rw [Char.toUpper_eq_of_isLower hlower, Char.toNat_ofNat]
    split <;> omega
  · rwa [Char.toUpper_eq_of_not_isLower hlower]

/-- A character outside ASCII is the uppercase of no other one in ASCII, nor the other way
around. -/
lemma eq_or_ascii (h : c.toUpper = d.toUpper) : c = d ∨ c.toNat < 128 ∧ d.toNat < 128 := by
  rcases Nat.lt_or_ge c.toNat 128 with hc | hc <;> rcases Nat.lt_or_ge d.toNat 128 with hd | hd
  · exact .inr ⟨hc, hd⟩
  · have hascii := toUpper_ascii hc
    rw [h, toUpper_of_not_ascii hd] at hascii
    omega
  · have hascii := toUpper_ascii hd
    rw [← h, toUpper_of_not_ascii hc] at hascii
    omega
  · rw [toUpper_of_not_ascii hc, toUpper_of_not_ascii hd] at h
    exact .inl h

lemma uppercaseChar_congr (h : c.toUpper = d.toUpper) : uppercaseChar c = uppercaseChar d := by
  rcases eq_or_ascii h with rfl | ⟨hc, hd⟩
  · rfl
  · rw [uppercaseChar_ascii hc, uppercaseChar_ascii hd, h]

end Chars

section Names

variable {a b : String}

lemma sameName_iff :
    sameName a b = true ↔
      List.Forall₂ (fun c d => c.toUpper = d.toUpper) a.toList b.toList := by
  rw [sameName, beq_iff_eq, ← List.forall₂_eq_eq_eq, List.forall₂_map_left_iff,
    List.forall₂_map_right_iff]
  simp only [toLower_eq_iff]

lemma uppercase_eq_iff :
    uppercase a = uppercase b ↔
      a.toList.flatMap uppercaseChar = b.toList.flatMap uppercaseChar := by
  rw [← String.toList_inj, uppercase, uppercase, toList_expand, toList_expand]

lemma flatMap_uppercaseChar_congr {cs ds : List Char}
    (h : List.Forall₂ (fun c d => c.toUpper = d.toUpper) cs ds) :
    cs.flatMap uppercaseChar = ds.flatMap uppercaseChar := by
  induction h with
  | nil => rfl
  | cons hhead _ ih => rw [List.flatMap_cons, List.flatMap_cons, uppercaseChar_congr hhead, ih]

lemma toUpper_of_flatMap_eq {cs ds : List Char}
    (hapart : List.Forall₂ (fun c d => c = d ∨ c.toNat < 128 ∧ d.toNat < 128) cs ds)
    (h : cs.flatMap uppercaseChar = ds.flatMap uppercaseChar) :
    List.Forall₂ (fun c d => c.toUpper = d.toUpper) cs ds := by
  induction hapart with
  | nil => exact .nil
  | cons hhead _ ih =>
    rw [List.flatMap_cons, List.flatMap_cons] at h
    -- The uppercase of the first characters has the same length on both sides, so it can be split
    -- off: it is the same text, or one letter each.
    rcases hhead with rfl | ⟨hc, hd⟩
    · exact .cons rfl (ih (List.append_cancel_left h))
    · rw [uppercaseChar_ascii hc, uppercaseChar_ascii hd] at h
      obtain ⟨hupper, hrest⟩ := List.cons.inj h
      exact .cons hupper (ih hrest)

/-- Names are the same up to the case of ASCII letters if they are the same in uppercase and differ
in ASCII characters only. -/
theorem sameName_iff_uppercase :
    sameName a b = true ↔ uppercase a = uppercase b ∧ AsciiApart a b := by
  rw [sameName_iff, uppercase_eq_iff]
  constructor
  · intro h
    exact ⟨flatMap_uppercaseChar_congr h, h.imp fun _ _ => eq_or_ascii⟩
  · rintro ⟨h, hapart⟩
    exact toUpper_of_flatMap_eq hapart h

lemma Plain.of_ascii (h : ∀ c ∈ a.toList, c.toNat < 128) : Plain a := by
  intro c hc hother
  have hascii := h c hc
  omega

/-- The uppercase of a plain name is taken in ASCII. -/
lemma Plain.flatMap_uppercaseChar (h : Plain a) :
    a.toList.flatMap uppercaseChar = a.toList.map Char.toUpper := by
  rw [List.map_eq_flatMap]
  refine List.flatMap_congr fun c hc => ?_
  rcases Nat.lt_or_ge c.toNat 128 with hascii | hother
  · exact uppercaseChar_ascii hascii
  · rw [h c hc hother, toUpper_of_not_ascii hother]

/-- For plain names both comparisons are the same. -/
theorem Plain.sameName_iff (ha : Plain a) (hb : Plain b) :
    sameName a b = true ↔ uppercase a = uppercase b := by
  rw [uppercase_eq_iff, ha.flatMap_uppercaseChar, hb.flatMap_uppercaseChar, Text.sameName_iff,
    ← List.forall₂_eq_eq_eq, List.forall₂_map_left_iff, List.forall₂_map_right_iff]

end Names

end Text

/-! ## Where names are looked up -/

/-- That there is no rule of some name is only found out when the name is looked up. -/
lemma Renderer.rule_eq_unknownRule_iff {r : Renderer} {name other : String} {markup : Markup} :
    r.rule name markup = .error (.unknownRule other) ↔
      r.grammar.get? name = none ∧ name = other := by
  rw [rule]
  cases hget : r.grammar.get? name with
  | none => simp
  | some node =>
    constructor
    · intro h
      have hfault := r.node_failure markup node
      rw [failure_eq_some_iff.2 h] at hfault
      rcases Node.ruleFault_cases hfault.symm with ⟨_, _, -, heq, -⟩ | ⟨_, _, _, heq⟩
      · simp at heq
      · simp at heq
    · rintro ⟨hnone, -⟩
      simp at hnone

namespace Grammar

variable {g : Grammar} {key name : String}

/-- A key is an entry point unless some reference is the same in uppercase. -/
lemma contains_entryPoints_iff (hkey : key ∈ g.definitions.keys) :
    g.entryPoints.contains key = true ↔
      ∀ n ∈ g.referencedNames, Text.uppercase n ≠ Text.uppercase key := by
  rw [EntryPoints.contains_iff, entryPoints, EntryPoints.mem_names_ofNames]
  constructor
  · rintro ⟨other, hother, heq⟩ n hn hupper
    obtain ⟨-, hfree⟩ := List.mem_filter.1 hother
    simp only [Bool.not_eq_true', List.contains_eq_mem, decide_eq_false_iff_not,
      List.mem_map, not_exists, not_and] at hfree
    exact hfree n hn (hupper.trans heq)
  · intro hfree
    refine ⟨key, List.mem_filter.2 ⟨hkey, ?_⟩, rfl⟩
    simpa using hfree

lemma isSome_get?_iff :
    (g.get? name).isSome = true ↔ ∃ key ∈ g.definitions.keys, Text.sameName key name = true := by
  rw [get?, Option.isSome_map, find?, List.find?_isSome, Dict.keys]
  simp only [List.mem_map, exists_exists_and_eq_and]

/-- Whoever looks for a name finds the same definition, or finds none. -/
lemma lookups_of_find? {entry : String × Node} (h : g.find? name = some entry) :
    entry ∈ g.definitions.entries ∧ Text.sameName entry.1 name = true ∧
      g.get? name = some entry.2 ∧ g.declaredName? name = some (declaredBy entry) ∧
      anchorIn (some g) name = declaredBy entry := by
  have hdeclared : g.declaredName? name = some (declaredBy entry) := by
    rw [declaredName?, h, Option.map_some]
  have hsame := List.find?_some (p := fun e : String × Node => Text.sameName e.1 name) h
  refine ⟨List.mem_of_find?_eq_some h, hsame, ?_, hdeclared, ?_⟩
  · rw [get?, h, Option.map_some]
  · rw [anchorIn, anchor, hdeclared, Option.getD_some]

/-- **What a reference is resolved to.**  For a name that is referred to, a definition is found if
and only if some key is the same in uppercase and differs from the name in ASCII characters only,
while none of the keys that are the same in uppercase is an entry point.  When these keys and the
name are plain, a definition is found as soon as there is such a key.  The definition that is found
is no entry point, its spelling is what is linked to, and its rule can be asked for; where none is
found, the link keeps the name, and there is no rule to ask for. -/
theorem resolved_iff {n : String} (hn : n ∈ g.referencedNames) :
    ((g.get? n).isSome = true ↔ ∃ key ∈ g.definitions.keys,
      Text.uppercase key = Text.uppercase n ∧ Text.AsciiApart key n) ∧
    (∀ key ∈ g.definitions.keys, Text.uppercase key = Text.uppercase n →
      g.entryPoints.contains key = false) ∧
    (Text.Plain n → (∀ key ∈ g.definitions.keys,
        Text.uppercase key = Text.uppercase n → Text.Plain key) →
      ((g.get? n).isSome = true ↔
        ∃ key ∈ g.definitions.keys, Text.uppercase key = Text.uppercase n)) ∧
    ((g.get? n).isSome = true → ∃ entry ∈ g.definitions.entries,
      g.get? n = some entry.2 ∧ g.entryPoints.contains entry.1 = false ∧
      g.declaredName? n = some (declaredBy entry) ∧ anchorIn (some g) n = declaredBy entry ∧
      ∀ (d : Dependencies) (options : Options) (markup : Markup) (other : String),
        (Renderer.mk g d options).rule n markup ≠ .error (.unknownRule other)) ∧
    ((g.get? n).isSome = false →
      g.declaredName? n = none ∧ anchorIn (some g) n = n ∧
      ∀ (d : Dependencies) (options : Options) (markup : Markup),
        (Renderer.mk g d options).rule n markup = .error (.unknownRule n)) := by
  have hnone : ∀ key ∈ g.definitions.keys, Text.uppercase key = Text.uppercase n →
      g.entryPoints.contains key = false := by
    intro key hkey heq
    rw [← Bool.not_eq_true, contains_entryPoints_iff hkey]
    exact fun hfree => hfree n hn heq.symm
  refine ⟨?_, hnone, ?_, ?_, ?_⟩
  · simp only [isSome_get?_iff, Text.sameName_iff_uppercase]
  · intro hplain hkeys
    rw [isSome_get?_iff]
    constructor
    · rintro ⟨key, hkey, hsame⟩
      exact ⟨key, hkey, (Text.sameName_iff_uppercase.1 hsame).1⟩
    · rintro ⟨key, hkey, heq⟩
      exact ⟨key, hkey, ((hkeys key hkey heq).sameName_iff hplain).2 heq⟩
  · intro hfound
    obtain ⟨entry, hentry⟩ : ∃ entry, g.find? n = some entry := by
      rw [get?, Option.isSome_map] at hfound
      exact Option.isSome_iff_exists.1 hfound
    obtain ⟨hmem, hsame, hget, hdeclared, hanchor⟩ := lookups_of_find? hentry
    have hkey : entry.1 ∈ g.definitions.keys := List.mem_map_of_mem hmem
    have hupper := (Text.sameName_iff_uppercase.1 hsame).1
    refine ⟨entry, hmem, hget, hnone _ hkey hupper, hdeclared, hanchor, ?_⟩
    intro d options markup other hunknown
    obtain ⟨hmissing, -⟩ := Renderer.rule_eq_unknownRule_iff.1 hunknown
    simp [hget] at hmissing
  · intro hmissing
    have hfind : g.find? n = none := by
      rw [get?, Option.isSome_map] at hmissing
      exact Option.isNone_iff_eq_none.1 (by simpa using hmissing)
    have hdeclared : g.declaredName? n = none := by rw [declaredName?, hfind, Option.map_none]
    have hget : g.get? n = none := by rw [get?, hfind, Option.map_none]
    refine ⟨hdeclared, ?_, ?_⟩
    · rw [anchorIn, anchor, hdeclared, Option.getD_none]
    · intro d options markup
      exact Renderer.rule_eq_unknownRule_iff.2 ⟨hget, rfl⟩

/-- The digits of the clock are declared in lowercase and referred to in uppercase. -/
theorem resolved_iff_clock : "DIGIT" ∈ clock.referencedNames ∧
    (clock.get? "DIGIT").isSome = true ∧ clock.entryPoints.contains "digit" = false := by
  have hn : "DIGIT" ∈ clock.referencedNames := by
    simp [referencedNames, nodes, Dict.values, clock, hours, Node.referencedNames_eq,
      Node.references, Node.referencesAll]
  have hascii : ∀ key ∈ clock.definitions.keys, Text.Plain key := by
    intro key hkey
    simp only [Dict.keys, clock, List.map_cons, List.map_nil, List.mem_cons, List.not_mem_nil,
      or_false] at hkey
    rcases hkey with rfl | rfl
    · exact .of_ascii (by simp)
    · exact .of_ascii (by simp)
  obtain ⟨-, hnone, hplain, -⟩ := resolved_iff hn
  have hfound := hplain (.of_ascii (by simp)) fun key hkey _ => hascii key hkey
  exact ⟨hn, hfound.2 ⟨"digit", by decide, by decide⟩, hnone "digit" (by decide) (by decide)⟩

/-- A rule that refers to itself with its accent on a letter of the other case. -/
def accentedText : String :=
  "\x7b\"defs\":\x7b\"é\":\x7b\"type\":\"rule\",\"name\":\"é\"," ++
    "\"def\":\x7b\"type\":\"ruleref\",\"name\":\"É\"\x7d\x7d\x7d\x7d"

/-- The grammar that this text describes. -/
def accented : Grammar :=
  ⟨⟨[("é", .rule "é" (.reference "É"))], by decide⟩, []⟩

lemma ofText_accented : Grammar.ofText accentedText = .ok accented :=
  ofText_eq_ok_of_compact (by decide) (by decide +kernel)

/-- The reference keeps the rule from being an entry point, and is not resolved to it. -/
theorem not_resolved_accented :
    Grammar.ofText accentedText = .ok accented ∧ "É" ∈ accented.referencedNames ∧
      (∃ key ∈ accented.definitions.keys, Text.uppercase key = Text.uppercase "É" ∧
        accented.entryPoints.contains key = false) ∧
      (accented.get? "É").isSome = false ∧
      ¬ ((∃ key ∈ accented.definitions.keys, Text.uppercase key = Text.uppercase "É") ↔
        (accented.get? "É").isSome = true) := by
  have hn : "É" ∈ accented.referencedNames := by
    simp [referencedNames, nodes, Dict.values, accented, Node.referencedNames_eq, Node.references]
  have hkey : "é" ∈ accented.definitions.keys := by decide
  have hupper : Text.uppercase "é" = Text.uppercase "É" := by decide
  have hentry : accented.entryPoints.contains "é" = false := by
    rw [← Bool.not_eq_true, contains_entryPoints_iff hkey]
    exact fun hfree => hfree "É" hn hupper.symm
  have hmissing : (accented.get? "É").isSome = false := by decide
  refine ⟨ofText_accented, hn, ⟨"é", hkey, hupper, hentry⟩, hmissing, fun hiff => ?_⟩
  have hfound := hiff.1 ⟨"é", hkey, hupper⟩
  rw [hmissing] at hfound
  simp at hfound

end Grammar

end Abnf
