import Abnf.Proofs.Outcome
import Abnf.Proofs.References

/-!
# Links lead to anchors

A reference links to the spelling with which its rule is declared.  When a whole grammar is
rendered, that spelling is the name of one of the rules that are shown, and the listing of this rule
carries the anchor; so no link between rules of the page leads nowhere (`render_links`).
-/

namespace Abnf

namespace Renderer

/-- What is rendered is a rule, with its listing and, if it has one, its diagram. -/
lemma of_node_eq_ok {r : Renderer} {markup : Markup} {node : Node} {rule : RenderedRule}
    (h : r.node markup node = .ok rule) :
    ∃ definition, node = .rule rule.name definition ∧
      rule.provenance = r.dependencies.provenance rule.name ∧
      (r.listing markup).rule (.rule rule.name definition) = .ok rule.text ∧
      ∀ diagram, rule.diagram = some diagram →
        r.drawing.rule (.rule rule.name definition) = .ok diagram := by
  obtain ⟨definition, body, rfl, htext, hdraw, hprovenance, -, hdiagram⟩ := parts_of_node h
  refine ⟨definition, rfl, hprovenance, htext, fun diagram hsome => ?_⟩
  rw [hsome] at hdiagram
  split at hdiagram
  · rw [hdraw, Option.some.inj hdiagram]
  · simp at hdiagram

end Renderer

namespace Grammar

/-- The rules of a rendered grammar are its definitions, in order. -/
lemma forall₂_of_render {g : Grammar} {d : Dependencies} {options : Options} {R : Rendering}
    (h : g.render d options = .ok R) :
    List.Forall₂ (fun node rule =>
      (Renderer.mk g d options).node (.html options.links) node = .ok rule) g.nodes R.rules :=
  Renderer.forall₂_of_all h

/-- The rule that a name refers to is among the rules that are shown. -/
lemma exists_shown {g : Grammar} {d : Dependencies} {options : Options} {R : Rendering}
    (h : g.render d options = .ok R) {name : String} (hname : (g.get? name).isSome = true) :
    ∃ rule ∈ R.rules, g.anchor name = rule.name := by
  obtain ⟨entry, hentry⟩ : ∃ entry, g.find? name = some entry := by
    rw [get?, Option.isSome_map] at hname
    exact Option.isSome_iff_exists.1 hname
  have hmem : entry.2 ∈ g.nodes :=
    List.mem_map.2 ⟨entry, List.mem_of_find?_eq_some hentry, rfl⟩
  obtain ⟨rule, hrule, hnode⟩ := exists_of_mem_left (forall₂_of_render h) hmem
  obtain ⟨definition, hdefinition, -⟩ := Renderer.of_node_eq_ok hnode
  refine ⟨rule, hrule, ?_⟩
  rw [anchor, declaredName?, hentry, Option.map_some, declaredBy, hdefinition]
  rfl

/-- **No link between rules leads nowhere.**  When a grammar has been rendered, every listing has
one anchor, the name of its rule.  After its declaration a listing links, and a diagram leads, from
each reference to the anchor of the name.  For every reference in a definition whose name the
grammar declares, there is a rule among those shown whose listing carries this anchor, and the
diagrams lead to the name of this rule. -/
theorem render_links {g : Grammar} {d : Dependencies} {options : Options} {R : Rendering}
    (h : g.render d options = .ok R) :
    (∀ rule ∈ R.rules, Listing.anchors rule.text =
      ["<dfn id=\"" ++ Text.escapeAttribute rule.name ++ "\">"]) ∧
    List.Forall₂ (fun node rule =>
      (∃ shown, rule.text = "<span class='rule'>" ++
          Markup.declareHtml options.links rule.name rule.provenance ++ shown ∧
        Listing.links shown = node.referencedNames.map fun n =>
          Markup.link ("#" ++ Text.escapeAttribute (g.anchor n)) (Text.escapeHtml n)) ∧
      ∀ diagram, rule.diagram = some diagram → diagram.references =
        node.referencedNames.map fun n => .nonTerminal n ("#" ++ g.anchor n)) g.nodes R.rules ∧
    ∀ node ∈ g.nodes, ∀ n, .reference n ∈ node.subtrees → (g.get? n).isSome = true →
      n ∈ node.referencedNames ∧ ∃ target ∈ R.rules,
        "<dfn id=\"" ++ Text.escapeAttribute (g.anchor n) ++ "\">" ∈
          Listing.anchors target.text ∧ g.anchor n = target.name := by
  have hrules := forall₂_of_render h
  have hanchors : ∀ rule ∈ R.rules, Listing.anchors rule.text =
      ["<dfn id=\"" ++ Text.escapeAttribute rule.name ++ "\">"] := by
    intro rule hrule
    obtain ⟨node, -, hnode⟩ := exists_of_mem_left hrules.flip hrule
    obtain ⟨definition, -, -, htext, -⟩ := Renderer.of_node_eq_ok hnode
    exact Listing.anchors_rule rfl htext
  refine ⟨hanchors, hrules.imp fun node rule hnode => ?_, fun node _ n hn hname => ?_⟩
  · obtain ⟨definition, rfl, hprovenance, htext, hdiagram⟩ := Renderer.of_node_eq_ok hnode
    have hanchor : anchorIn (some g) = g.anchor := rfl
    have hmarkup : ((Renderer.mk g d options).listing (.html options.links)).markup =
        .html options.links := rfl
    obtain ⟨shown, hshown, hlinks⟩ := Listing.links_rule hmarkup htext
    rw [show ((Renderer.mk g d options).listing (.html options.links)).grammar = some g from rfl,
      hanchor] at hlinks
    rw [Node.referencedNames_eq, Node.references, hprovenance]
    refine ⟨⟨shown, hshown, hlinks⟩, fun diagram hsome => ?_⟩
    rw [Drawing.references_rule (hdiagram diagram hsome), ← hanchor]
    rfl
  · obtain ⟨target, htarget, hanchor⟩ := exists_shown h hname
    refine ⟨?_, target, htarget, ?_, hanchor⟩
    · rw [Node.referencedNames_eq]
      exact Node.mem_references.2 hn
    · rw [hanchors target htarget, hanchor]
      exact List.mem_singleton_self _

/-- The clock can be rendered, and the digits that its hours refer to have an anchor. -/
theorem render_links_clock :
    ∃ R, clock.render .none {} = .ok R ∧ ∃ target ∈ R.rules,
      "<dfn id=\"Digit\">" ∈ Listing.anchors target.text ∧ "Digit" = target.name := by
  obtain ⟨R, hR⟩ := failure_eq_none_iff.1
    (((Renderer.mk clock .none {}).selected_failure none (.html .rfcNumber)).trans (by decide))
  have hrender : clock.render .none {} = .ok R := hR
  have hlinks := (render_links hrender).2.2 (.rule "hours" hours)
    (by simp [nodes, Dict.values, clock]) "DIGIT"
    (by simp [hours, Node.subtrees, Node.subtreesAll]) (by decide)
  exact ⟨R, hrender, hlinks.2⟩

end Grammar

end Abnf
