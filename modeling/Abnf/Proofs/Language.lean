import Mathlib.Computability.Language
import Mathlib.Tactic.IntervalCases
import Abnf.Proofs.Numeral
import Abnf.Proofs.Threads

/-!
# The language of a diagram

A definition describes the sequences of leaves that its terms allow; a diagram describes the
sequences of boxes along its tracks.  A leaf counts as the box that is drawn for it, so that both
are languages over the same letters.  How often a loop may be taken is not read off its shape but
off the text of its label, which is all that a reader of the diagram can see.

Drawing keeps the language (`language_body`): the label tells exactly the bounds of the repetition
(`ofLabel?_label`), and the choice between the three kinds of loop never forbids or admits a number
of rounds that the bounds do not.
-/

namespace Abnf

/-! ## Bounds -/

namespace Repeat

/-- The numbers between two bounds. -/
def between (least : Nat) (most : Option Nat) : Set Nat := {n | least ≤ n ∧ ∀ m ∈ most, n ≤ m}

/-- The numbers of occurrences that a repetition allows. -/
def counts (r : Repeat) : Set Nat := between r.min.toNat (r.max.map UInt32.toNat)

/-- The bounds that a label shows: `2`, `1-3` or `0-∞`. -/
def ofLabel? (label : String) : Option (Nat × Option Nat) := do
  let least ← Base.decimal.read? (label.toList.takeWhile (· != '-'))
  match label.toList.dropWhile (· != '-') with
  | [] => some (least, some least)
  | _ :: most =>
    if most = ['∞'] then some (least, none)
    else (Base.decimal.read? most).map fun m => (least, some m)

lemma hyphen_notMem_toDigits (n : Nat) : ∀ c ∈ Nat.toDigits 10 n, (c != '-') = true := by
  intro c hc
  have hdigit := Base.decimal.isSome_digit?_of_mem hc
  by_contra hne
  obtain rfl : c = '-' := by simpa using hne
  exact absurd hdigit (by decide)

lemma read?_decimal (n : Nat) : Base.decimal.read? (Nat.toDigits 10 n) = some n :=
  Base.decimal.read?_toDigits n

/-- The label of a repetition shows its bounds. -/
theorem ofLabel?_label (r : Repeat) :
    ofLabel? r.label = some (r.min.toNat, r.max.map UInt32.toNat) := by
  obtain ⟨min, max⟩ := r
  have hdigits := hyphen_notMem_toDigits min.toNat
  cases max with
  | none =>
    have hlabel : (label ⟨min, none⟩).toList = Nat.toDigits 10 min.toNat ++ ['-', '∞'] := by
      simp [label]
    rw [ofLabel?, hlabel, List.takeWhile_append_of_pos hdigits,
      List.dropWhile_append_of_pos hdigits]
    simp [read?_decimal]
  | some max =>
    by_cases h : max = min
    · have hlabel : (label ⟨min, some max⟩).toList = Nat.toDigits 10 min.toNat ++ [] := by
        simp [label, h]
      rw [ofLabel?, hlabel, List.takeWhile_append_of_pos hdigits,
        List.dropWhile_append_of_pos hdigits]
      simp [read?_decimal, h]
    · have hlabel : (label ⟨min, some max⟩).toList =
          Nat.toDigits 10 min.toNat ++ '-' :: Nat.toDigits 10 max.toNat := by
        simp [label, h]
      have hne : Nat.toDigits 10 max.toNat ≠ ['∞'] := by
        intro heq
        have hnone : Base.decimal.read? ['∞'] = none := by decide
        have hread := read?_decimal max.toNat
        rw [heq, hnone] at hread
        simp at hread
      rw [ofLabel?, hlabel, List.takeWhile_append_of_pos hdigits,
        List.dropWhile_append_of_pos hdigits]
      simp [read?_decimal, hne]

end Repeat

/-! ## Languages -/

/-- The words that are made of as many words of a language as one of the given numbers says. -/
def times (counts : Set Nat) (l : Language Diagram) : Language Diagram :=
  {word | ∃ n ∈ counts, word ∈ l ^ n}

/-- The language of a single letter, if there is one. -/
def letter : Option Diagram → Language Diagram
  | some box => {[box]}
  | none => 0

namespace Diagram

/-- How often a loop with a label may be taken. -/
def counts : Diagram → Set Nat
  | .comment text => {n | ∃ least most, Repeat.ofLabel? text = some (least, most) ∧
      n ∈ Repeat.between least most}
  | _ => ∅

mutual

/-- The sequences of boxes along the tracks of a diagram. -/
def language : Diagram → Language Diagram
  | .terminal text => {[.terminal text]}
  | .nonTerminal name href => {[.nonTerminal name href]}
  | .comment _ => 1
  | .diagram items => (languages items).prod
  | .complexDiagram items => (languages items).prod
  | .sequence items => (languages items).prod
  | .choice _ branches => (languages branches).sum
  | .group item => item.language
  | .optional item => 1 + item.language
  | .zeroOrMore item label => times label.counts item.language
  | .oneOrMore item label => times {n | n ∈ label.counts ∧ 1 ≤ n} item.language

/-- The languages of several diagrams. -/
def languages : List Diagram → List (Language Diagram)
  | [] => []
  | d :: rest => d.language :: languages rest

end

end Diagram

namespace Node

/-- The box of a leaf: what it says in quotes, by codes or in angle brackets, or the name that it
refers to with its link. -/
def box? (anchor : String → String) : Node → Option Diagram
  | .literal _ text none => some (.terminal ("\"" ++ text ++ "\""))
  | .literal _ text (some base) => (base.encodeFirst text).map .terminal
  | .range first last base => some (.terminal (base.encodeRange first last))
  | .prose text => some (.terminal ("<" ++ text ++ ">"))
  | .reference name => some (.nonTerminal name ("#" ++ anchor name))
  | _ => none

mutual

/-- The sequences of leaves that a definition allows, each leaf as its box. -/
def language (anchor : String → String) (node : Node) : Language Diagram :=
  match node with
  | .rule _ definition => language anchor definition
  | .concatenation elements => (languages anchor elements).prod
  | .alternation choices => (languages anchor choices).sum
  | .group inner => language anchor inner
  | .repetition element bounds => times bounds.counts (language anchor element)
  | leaf => letter (leaf.box? anchor)

/-- The sequences of leaves that several definitions allow. -/
def languages (anchor : String → String) : List Node → List (Language Diagram)
  | [] => []
  | node :: rest => language anchor node :: languages anchor rest

end

end Node

/-! ## Drawing keeps the language -/

@[simp] lemma mem_times {counts : Set Nat} {l : Language Diagram} {word : List Diagram} :
    word ∈ times counts l ↔ ∃ n ∈ counts, word ∈ l ^ n := Iff.rfl

lemma Repeat.mem_counts {r : Repeat} {n : Nat} :
    n ∈ r.counts ↔ r.min.toNat ≤ n ∧ ∀ m ∈ r.max.map UInt32.toNat, n ≤ m := Iff.rfl

/-- The label of a loop says how often the repetition allows its element. -/
lemma counts_label (r : Repeat) : (Diagram.comment r.label).counts = r.counts := by
  ext n
  simp only [Diagram.counts, r.ofLabel?_label, Set.mem_ofPred_eq]
  constructor
  · rintro ⟨least, most, heq, hn⟩
    obtain ⟨rfl, rfl⟩ := Prod.mk.inj (Option.some.inj heq)
    exact hn
  · intro hn
    exact ⟨_, _, rfl, hn⟩

/-- A repeated part allows its item as often as the repetition says. -/
lemma language_draw_repeat (r : Repeat) (item : Diagram) :
    (r.draw item).language = times r.counts item.language := by
  rw [Repeat.draw]
  by_cases hopt : r.isOptional = true
  · rw [if_pos hopt]
    obtain rfl := (Repeat.isOptional_iff r).1 hopt
    ext word
    rw [Diagram.language, Language.mem_add, mem_times]
    constructor
    · rintro (hone | hitem)
      · exact ⟨0, by simp [Repeat.mem_counts], by simpa using hone⟩
      · exact ⟨1, by simp [Repeat.mem_counts], by simpa using hitem⟩
    · rintro ⟨n, hn, hword⟩
      have hle : n ≤ 1 := by simpa [Repeat.mem_counts] using hn
      interval_cases n
      · exact Or.inl (by simpa using hword)
      · exact Or.inr (by simpa using hword)
  · rw [if_neg hopt]
    by_cases hmin : r.min = 0
    · rw [if_pos hmin, Diagram.language, counts_label]
    · rw [if_neg hmin, Diagram.language, counts_label]
      -- A loop that is taken at least once forbids nothing: the bounds already ask for it.
      have hpos : r.min.toNat ≠ 0 := fun hzero => hmin (UInt32.toNat_inj.1 hzero)
      have hcounts : {n | n ∈ r.counts ∧ 1 ≤ n} = r.counts := by
        ext n
        constructor
        · exact And.left
        · intro hn
          have hle := (Repeat.mem_counts.1 hn).1
          exact ⟨hn, by omega⟩
      rw [hcounts]

namespace Node

lemma languages_drawAll {anchor : String → String} {nodes : List Node}
    (ih : ∀ node ∈ nodes, ∀ {d diagram}, node.draw anchor d = .ok diagram →
      diagram.language = node.language anchor) {d : Descent} {diagrams : List Diagram}
    (h : drawAll anchor d nodes = .ok diagrams) :
    Diagram.languages diagrams = languages anchor nodes := by
  induction nodes generalizing diagrams with
  | nil =>
    obtain rfl := Except.ok.inj h
    rfl
  | cons node rest ihr =>
    rw [drawAll] at h
    obtain ⟨first, hfirst, h⟩ := exists_of_bind_eq_ok h
    obtain ⟨others, hothers, h⟩ := exists_of_bind_eq_ok h
    obtain rfl := Except.ok.inj h
    have hnode := ih node (by simp) hfirst
    have hrest := ihr (fun other ho => ih other (by simp [ho])) hothers
    rw [Diagram.languages, languages, hnode, hrest]

/-- A definition and its diagram have the same language. -/
theorem language_draw {anchor : String → String} {d : Descent} {node : Node} {diagram : Diagram}
    (h : node.draw anchor d = .ok diagram) : diagram.language = node.language anchor := by
  induction node generalizing d diagram with
  | rule name definition ih =>
    rw [draw] at h
    have herror := of_descend_bind h
    simp at herror
  | literal casing text base =>
    rw [draw] at h
    obtain ⟨shown, hshown, rfl⟩ := exists_of_map_eq_ok (of_descend_bind h)
    have hbox : (literal casing text base).box? anchor = some (.terminal shown) := by
      cases base with
      | none =>
        obtain rfl := Except.ok.inj hshown
        rfl
      | some b =>
        cases hcode : b.encodeFirst text with
        | none => simp [Descent.terminalText, hcode] at hshown
        | some code =>
          have heq : code = shown := by simpa [Descent.terminalText, hcode] using hshown
          simp [box?, hcode, heq]
    show _ = letter ((literal casing text base).box? anchor)
    rw [hbox]
    rfl
  | range first last base =>
    rw [draw] at h
    have hbox := of_descend_bind h
    obtain rfl := Except.ok.inj hbox
    rfl
  | prose text =>
    rw [draw] at h
    have hbox := of_descend_bind h
    obtain rfl := Except.ok.inj hbox
    rfl
  | reference name =>
    rw [draw] at h
    have hbox := of_descend_bind h
    obtain rfl := Except.ok.inj hbox
    rfl
  | concatenation elements ih =>
    rw [draw] at h
    obtain ⟨items, hitems, rfl⟩ := exists_of_map_eq_ok (of_descend_bind h)
    rw [Diagram.language, language, languages_drawAll ih hitems]
  | alternation choices ih =>
    rw [draw] at h
    obtain ⟨branches, hbranches, rfl⟩ := exists_of_map_eq_ok (of_descend_bind h)
    rw [Diagram.language, language, languages_drawAll ih hbranches]
  | group inner ih =>
    rw [draw] at h
    obtain ⟨item, hitem, rfl⟩ := exists_of_map_eq_ok (of_descend_bind h)
    rw [Diagram.language, language, ih hitem]
  | repetition element bounds ih ihu =>
    rw [draw_repetition] at h
    obtain ⟨item, hitem, rfl⟩ := exists_of_map_eq_ok (of_descend_bind h)
    have hinner : element.unwrapped.language anchor = element.language anchor := by
      cases element <;> rfl
    rw [language_draw_repeat, ihu hitem, hinner, language]

end Node

/-- **A diagram means what the definition means.**  Whenever a rule can be drawn, with whatever
labels, entry points, anchors and greatest depth, the whole diagram has a body, and the sequences of
boxes along its tracks, with the loops taken as often as their labels say, are the sequences of
leaves that the definition of the rule allows. -/
theorem Drawing.language_body {drawing : Drawing} {name : String} {definition : Node}
    {diagram : Diagram} (h : drawing.rule (.rule name definition) = .ok diagram) :
    ∃ body, diagram.body? = some body ∧
      body.language = definition.language (anchorIn drawing.grammar) := by
  rw [Drawing.rule_eq] at h
  obtain ⟨body, hbody, rfl⟩ := Node.exists_of_map_eq_ok h
  refine ⟨body, ?_, Node.language_draw hbody⟩
  cases hlabel : drawing.label <;> cases hentry : drawing.entryPoints.contains name <;>
    simp [whole, hlabel, hentry, Diagram.body?]

/-- A definition with a bounded loop around a group, and with a loop that no number of rounds
satisfies. -/
def loops : Node :=
  .concatenation
    [.repetition (.group (.alternation [.reference "a", .prose "b"])) ⟨0, some 4⟩,
     .repetition (.reference "c") ⟨3, some 2⟩]

/-- What is drawn for the loops below the name of their rule. -/
def drawnLoops : Diagram :=
  .sequence
    [.zeroOrMore (.choice 0 [.nonTerminal "a" "#a", .terminal "<b>"]) (.comment "0-4"),
     .oneOrMore (.nonTerminal "c" "#c") (.comment "3-2")]

/-- The loops are drawn, and the diagram has their language. -/
theorem Drawing.language_body_loops :
    (Drawing.mk (.ofNames ["r"]) none true 4).rule (.rule "r" loops) =
        .ok (.complexDiagram [.comment "r", drawnLoops]) ∧
      ∃ body : Diagram, (Diagram.complexDiagram [.comment "r", drawnLoops]).body? = some body ∧
        body.language = loops.language (anchorIn none) := by
  have hdrawn : (Drawing.mk (.ofNames ["r"]) none true 4).rule (.rule "r" loops) =
      .ok (.complexDiagram [.comment "r", drawnLoops]) := by
    rfl
  exact ⟨hdrawn, Drawing.language_body hdrawn⟩

end Abnf
