import Abnf.Proofs.Excerpts

/-!
# References in listings and diagrams

The references of a definition can be seen in three places: they are collected by a walk, they link
to their rules in the listing, and they have boxes in the diagram.  The three views agree
(`references_agree`): the same names in the same order, and each with the anchor that the grammar
gives for it.
-/

namespace Abnf

/-! ## Links and anchors -/

namespace Listing

/-- The links in an HTML text: from every place where the tag of one begins up to where the next
one ends. -/
def links (text : String) : List String :=
  (Text.excerpts ['<', 'a'] ['<', '/', 'a', '>'] text.toList).map String.ofList

/-- The tags in an HTML text that mark where a rule is declared. -/
def anchors (text : String) : List String :=
  (Text.excerpts ['<', 'd', 'f', 'n'] ['>'] text.toList).map String.ofList

end Listing

open Text (Contributes)

lemma passesSpans_link : PassesSpans ['a'] := ⟨fun _ => rfl, fun _ => rfl⟩

lemma passesSpans_definition : PassesSpans ['d', 'f', 'n'] := ⟨fun _ => rfl, fun _ => rfl⟩

/-- A link around a text is cut out as a whole. -/
lemma contributes_link (href name : String) :
    Contributes ['<', 'a'] ['<', '/', 'a', '>']
      ((Element.link.around href [.text name]).flatMap Token.html)
      [(Markup.link (Text.escapeAttribute href) (Text.escapeHtml name)).toList] := by
  obtain ⟨body, hbody⟩ : ∃ body, body =
      Element.link.tagTail href ++ (Text.escapeHtml name).toList := ⟨_, rfl⟩
  have hchars : (Element.link.around href [.text name]).flatMap Token.html =
      '<' :: body ++ ['<', '/', 'a', '>'] := by
    rw [Markup.flatMap_around, html_opening, hbody]
    simp [Token.html, Token.escaped, Token.chars, Element.stop]
  have hlink : (Markup.link (Text.escapeAttribute href) (Text.escapeHtml name)).toList =
      '<' :: body ++ ['<', '/', 'a', '>'] := by
    rw [Markup.toList_link, ← hchars, Markup.flatMap_around]
    simp [Token.html, Token.escaped, Token.chars]
  have hne : ∀ c ∈ body, c ≠ '<' := by
    intro c hc
    rw [hbody] at hc
    rcases List.mem_append.1 hc with htag | hname
    · exact ne_of_mem_tagTail htag
    · exact (Text.mem_escapeHtml hname).1
  have hprefix : ['a'] <+: body := by
    rw [hbody, Element.tagTail, List.append_assoc]
    exact ⟨_, rfl⟩
  intro rest
  have hclosing : Contributes ['<', 'a'] ['<', '/', 'a', '>'] (Token.closing .link).html [] :=
    passesSpans_link.closingTag .link
  -- The link ends at the first place where a tag is closed, for there is none before.
  have hthrough : Text.through ['<', '/', 'a', '>']
      ('<' :: body ++ (['<', '/', 'a', '>'] ++ rest)) = '<' :: body ++ ['<', '/', 'a', '>'] := by
    have hnot : ['<', '/', 'a', '>'].isPrefixOf
        ('<' :: (body ++ (['<', '/', 'a', '>'] ++ rest))) = false := by
      rw [hbody, Element.tagTail, List.append_assoc, List.append_assoc]
      rfl
    rw [List.cons_append, Text.through, hnot, Text.through_append hne, Text.through_stop]
    rfl
  rw [hchars, hlink, List.append_assoc, Text.Contributes.excerpts_of_prefix hne hprefix, hthrough]
  exact congrArg _ (hclosing rest)

/-- The tag that marks where a rule is declared is cut out as a whole. -/
lemma contributes_definition (name : String) :
    Contributes ['<', 'd', 'f', 'n'] ['>']
      ((Element.definition.around name [.text name]).flatMap Token.html)
      [("<dfn id=\"" ++ Text.escapeAttribute name ++ "\">").toList] := by
  have hopening : Contributes ['<', 'd', 'f', 'n'] ['>'] (Token.opening .definition name).html
      [("<dfn id=\"" ++ Text.escapeAttribute name ++ "\">").toList] := by
    obtain ⟨body, hbody⟩ : ∃ body, body =
        "<dfn id=\"".toList ++ ((Text.escapeAttribute name).toList ++ ['"']) := ⟨_, rfl⟩
    have hne : ∀ c ∈ body, c ≠ '>' := by
      intro c hc
      simp only [hbody, List.mem_append] at hc
      rcases hc with htag | hvalue | hquote
      · exact ne_of_all (by decide) c htag
      · exact (Text.mem_escapeAttribute hvalue).2.1
      · exact ne_of_all (by decide) c hquote
    have hchars : '<' :: Element.definition.tagTail name = body ++ ['>'] := by
      rw [hbody, Element.tagTail]
      simp [Element.start, Element.quote]
    have htag : ("<dfn id=\"" ++ Text.escapeAttribute name ++ "\">").toList = body ++ ['>'] := by
      rw [hbody]
      simp
    intro rest
    have hprefix : ['d', 'f', 'n'] <+: Element.definition.tagTail name := ⟨_, rfl⟩
    have hthrough : Text.through ['>'] ('>' :: rest) = ['>'] := Text.through_stop '>' [] rest
    rw [html_opening, Contributes.excerpts_of_prefix (fun c hc => ne_of_mem_tagTail hc) hprefix,
      hchars, List.append_assoc, Text.through_append hne, List.cons_append, List.nil_append,
      hthrough, htag]
    rfl
  rw [Markup.flatMap_around]
  simpa using (hopening.append (PassesSpans.text name)).append
    (passesSpans_definition.closingTag .definition)

/-- A link marks no place for itself. -/
lemma contributes_around_link (href : String) {inner : List Token} {found : List (List Char)}
    (h : Contributes ['<', 'd', 'f', 'n'] ['>'] (inner.flatMap Token.html) found) :
    Contributes ['<', 'd', 'f', 'n'] ['>'] ((Element.link.around href inner).flatMap Token.html)
      found := by
  have hopening : Contributes ['<', 'd', 'f', 'n'] ['>'] (Token.opening .link href).html [] := by
    rw [html_opening]
    exact .of_noStart (fun c hc => ne_of_mem_tagTail hc) fun rest => rfl
  rw [Markup.flatMap_around]
  simpa using (hopening.append h).append (passesSpans_definition.closingTag .link)

/-- A declaration marks its place once. -/
lemma contributes_declaration (style : LinkStyle) (name : String) (provenance : Provenance) :
    Contributes ['<', 'd', 'f', 'n'] ['>']
      ((declarationTokens style name provenance).flatMap Token.html)
      [("<dfn id=\"" ++ Text.escapeAttribute name ++ "\">").toList] := by
  have hname := contributes_definition name
  rw [declarationTokens]
  split
  · exact hname
  · next source _ =>
    have hsource : Contributes ['<', 'd', 'f', 'n'] ['>']
        ((Element.link.around (style.grammarLink source) [.text source]).flatMap Token.html) [] :=
      contributes_around_link _ (by simpa using PassesSpans.text source)
    have hinner : Contributes ['<', 'd', 'f', 'n'] ['>']
        ((Token.text ("; " ++ provenance.verb ++ " ") ::
          Element.link.around (style.grammarLink source) [.text source]).flatMap Token.html)
        [] := by
      simpa using (PassesSpans.text _).append hsource
    have hcomment := passesSpans_definition.span "comment" hinner
    have hlink := contributes_around_link (style.ruleLink source name) hname
    simpa using hcomment.append ((PassesSpans.text "\n").append hlink)

namespace Listing

variable {listing : Listing} {style : LinkStyle} {name : String} {definition : Node}
  {text : String}

/-- What has been written holds no rules below the top. -/
lemma rule_notMem_subtrees (h : listing.rule (.rule name definition) = .ok text) :
    ∀ other inner, .rule other inner ∉ definition.subtrees := by
  intro other inner hmem
  rw [rule_eq] at h
  obtain ⟨body, hbody, -⟩ := Node.exists_of_bind_eq_ok h
  have hfault := Node.fault_eq_none_of_list hbody hmem
  simp [Node.fault] at hfault

/-- The tokens of an HTML listing are written in HTML. -/
lemma toList_rule (hmarkup : listing.markup = .html style)
    (h : listing.rule (.rule name definition) = .ok text) :
    text.toList = (ruleTokens style (listing.dependencies.provenance name)
      (anchorIn listing.grammar) name definition).flatMap Token.html :=
  rule_spelled listing (hmarkup ▸ Markup.spells_html style) h

/-- An HTML listing marks the place where its rule is declared, and no other place. -/
theorem anchors_rule (hmarkup : listing.markup = .html style)
    (h : listing.rule (.rule name definition) = .ok text) :
    anchors text = ["<dfn id=\"" ++ Text.escapeAttribute name ++ "\">"] := by
  have hlink : ∀ name, Contributes ['<', 'd', 'f', 'n'] ['>']
      ((Element.link.around ("#" ++ anchorIn listing.grammar name) [.text name]).flatMap Token.html)
      [] := fun name => contributes_around_link _ (by simpa using PassesSpans.text name)
  have hdefinition := passesSpans_definition.tokens hlink (rule_notMem_subtrees h)
  have hdeclaration := contributes_declaration style name (listing.dependencies.provenance name)
  have hinner := hdeclaration.append ((PassesSpans.text " = ").append hdefinition)
  rw [← List.flatMap_cons, ← List.flatMap_append] at hinner
  have hrule := passesSpans_definition.span Kind.rule.styleClass hinner
  rw [anchors, toList_rule hmarkup h, ruleTokens, hrule.excerpts_eq, List.map_append,
    List.map_singleton, String.ofList_toList]
  simp

/-- After the declaration of its rule, an HTML listing has the links of the references. -/
theorem links_rule (hmarkup : listing.markup = .html style)
    (h : listing.rule (.rule name definition) = .ok text) :
    ∃ shown, text = "<span class='rule'>" ++
        Markup.declareHtml style name (listing.dependencies.provenance name) ++ shown ∧
      links shown = definition.references.map fun name =>
        Markup.link ("#" ++ Text.escapeAttribute (anchorIn listing.grammar name))
          (Text.escapeHtml name) := by
  have hrules := rule_notMem_subtrees h
  rw [rule_eq, hmarkup] at h
  obtain ⟨body, hbody, heq⟩ := Node.exists_of_bind_eq_ok h
  have htext := (Except.ok.inj heq).symm
  have hspelled : body.toList =
      (definition.tokens (anchorIn listing.grammar)).flatMap Token.html :=
    (Markup.spells_html style).list hbody
  have hlink := fun name => contributes_link ("#" ++ anchorIn listing.grammar name) name
  have hdefinition := passesSpans_link.tokens hlink hrules
  have hshown : Contributes ['<', 'a'] ['<', '/', 'a', '>'] (" = " ++ body ++ "</span>").toList
      (definition.references.flatMap fun name =>
        [(Markup.link (Text.escapeAttribute ("#" ++ anchorIn listing.grammar name))
          (Text.escapeHtml name)).toList]) := by
    have hmark : (" = " : String).toList = (Token.text " = ").html := by decide
    have hend : ("</span>" : String).toList = (Token.closing .span).html := rfl
    rw [String.toList_append, String.toList_append, hspelled, hmark, hend]
    simpa using ((PassesSpans.text " = ").append hdefinition).append
      (passesSpans_link.closingTag .span)
  refine ⟨" = " ++ body ++ "</span>", ?_, ?_⟩
  · have hopening : "<span class='" ++ Kind.rule.styleClass ++ "'>" = "<span class='rule'>" := by
      decide
    rw [htext]
    show "<span class='" ++ Kind.rule.styleClass ++ "'>" ++
      (Markup.declareHtml style name (listing.dependencies.provenance name) ++ " = " ++ body) ++
        "</span>" = _
    rw [hopening]
    simp only [String.append_assoc]
  · have hhash : Text.escapeAttribute "#" = "#" := Text.escapeAttribute_eq_self (by decide)
    rw [links, hshown.excerpts_eq, List.map_flatMap, List.map_eq_flatMap]
    simp [hhash]

end Listing

/-! ## References in a diagram -/

namespace Diagram

mutual

/-- A part of a diagram and the parts inside it, each before those inside it and from left to
right. -/
def parts (diagram : Diagram) : List Diagram :=
  diagram ::
    match diagram with
    | .diagram items | .complexDiagram items | .sequence items => partsAll items
    | .choice _ branches => partsAll branches
    | .group item | .optional item => parts item
    | .zeroOrMore item label | .oneOrMore item label => parts item ++ parts label
    | .terminal _ | .nonTerminal _ _ | .comment _ => []

/-- Several parts with the parts inside them. -/
def partsAll : List Diagram → List Diagram
  | [] => []
  | d :: rest => parts d ++ partsAll rest

end

/-- Whether a part is a box for a reference. -/
def isReference : Diagram → Bool
  | .nonTerminal _ _ => true
  | _ => false

/-- The boxes for references, from left to right. -/
def references (diagram : Diagram) : List Diagram := diagram.parts.filter isReference

/-- A repeated part refers to what its item does. -/
lemma references_draw_repeat (r : Repeat) (item : Diagram) :
    (r.draw item).references = item.references := by
  rw [Repeat.draw]
  split
  · rfl
  · split <;> simp [references, parts, isReference]

end Diagram

namespace Node

lemma references_drawAll {anchor : String → String} {nodes : List Node}
    (ih : ∀ node ∈ nodes, ∀ {d diagram}, node.draw anchor d = .ok diagram →
      diagram.references = node.references.map fun name => .linkTo name (anchor name))
    {d : Descent} {diagrams : List Diagram} (h : drawAll anchor d nodes = .ok diagrams) :
    (Diagram.partsAll diagrams).filter Diagram.isReference =
      (referencesAll nodes).map fun name => .linkTo name (anchor name) := by
  induction nodes generalizing diagrams with
  | nil =>
    obtain rfl := Except.ok.inj h
    rfl
  | cons node rest ihr =>
    rw [drawAll] at h
    obtain ⟨first, hfirst, h⟩ := exists_of_bind_eq_ok h
    obtain ⟨others, hothers, h⟩ := exists_of_bind_eq_ok h
    obtain rfl := Except.ok.inj h
    have hnode := ih node (by simp) hfirst
    have hrest := ihr (fun other ho => ih other (by simp [ho])) hothers
    rw [Diagram.partsAll, List.filter_append, referencesAll, List.map_append, ← hnode, ← hrest,
      Diagram.references]

/-- The boxes for references in a diagram are those of the references of the definition. -/
theorem references_draw {anchor : String → String} {d : Descent} {node : Node} {diagram : Diagram}
    (h : node.draw anchor d = .ok diagram) :
    diagram.references = node.references.map fun name => .linkTo name (anchor name) := by
  induction node generalizing d diagram with
  | rule name definition ih =>
    rw [draw] at h
    have herror := of_descend_bind h
    simp at herror
  | literal casing text base =>
    rw [draw] at h
    obtain ⟨shown, -, rfl⟩ := exists_of_map_eq_ok (of_descend_bind h)
    rfl
  | range first last base =>
    rw [draw] at h
    have hbox := of_descend_bind h
    obtain rfl := Except.ok.inj hbox
    rfl
  | prose text =>
    rw [draw] at h
    have hbox := of_descend_bind h
    obtain rfl := Except.ok.inj hbox
    rfl
  | reference name =>
    rw [draw] at h
    have hbox := of_descend_bind h
    obtain rfl := Except.ok.inj hbox
    rfl
  | concatenation elements ih =>
    rw [draw] at h
    obtain ⟨items, hitems, rfl⟩ := exists_of_map_eq_ok (of_descend_bind h)
    exact references_drawAll ih hitems
  | alternation choices ih =>
    rw [draw] at h
    obtain ⟨branches, hbranches, rfl⟩ := exists_of_map_eq_ok (of_descend_bind h)
    exact references_drawAll ih hbranches
  | group inner ih =>
    rw [draw] at h
    obtain ⟨item, hitem, rfl⟩ := exists_of_map_eq_ok (of_descend_bind h)
    have hinner := ih hitem
    exact hinner
  | repetition element bounds ih ihu =>
    rw [draw_repetition] at h
    obtain ⟨item, hitem, rfl⟩ := exists_of_map_eq_ok (of_descend_bind h)
    have hunwrapped : element.unwrapped.references = element.references := by
      cases element <;> rfl
    rw [Diagram.references_draw_repeat, ihu hitem, hunwrapped, references]

end Node

/-- The boxes for references in the diagram of a rule, whatever its label. -/
theorem Drawing.references_rule {drawing : Drawing} {name : String} {definition : Node}
    {diagram : Diagram} (h : drawing.rule (.rule name definition) = .ok diagram) :
    diagram.references = definition.references.map fun name =>
      .nonTerminal name ("#" ++ anchorIn drawing.grammar name) := by
  rw [Drawing.rule_eq] at h
  obtain ⟨body, hbody, rfl⟩ := Node.exists_of_map_eq_ok h
  have hwhole : (drawing.whole name body).references = body.references := by
    cases hlabel : drawing.label <;> cases hentry : drawing.entryPoints.contains name <;>
      simp [Drawing.whole, hlabel, hentry, Diagram.references, Diagram.parts, Diagram.partsAll,
        Diagram.isReference]
  rw [hwhole, Node.references_draw hbody]
  rfl

/-! ## The three views -/

/-- **References look the same everywhere.**  If a rule of a grammar can be written as HTML and
drawn, then the boxes for references in its diagram, and the links in its listing after the
declaration, belong to the names that the walk collects, in this order: each shows the name and
leads to the spelling with which the grammar declares it, or to the name itself if it does not. -/
theorem references_agree {g : Grammar} {dependencies : Dependencies} {style : LinkStyle}
    {limit : Nat} {drawing : Drawing} {name text : String} {definition : Node} {diagram : Diagram}
    (htext : (Listing.mk dependencies (.html style) (some g) limit).rule (.rule name definition) =
      .ok text)
    (hdiagram : { drawing with grammar := some g }.rule (.rule name definition) = .ok diagram) :
    diagram.references = (Node.rule name definition).referencedNames.map (fun n =>
        .nonTerminal n ("#" ++ (g.declaredName? n).getD n)) ∧
      ∃ shown, text = "<span class='rule'>" ++
          Markup.declareHtml style name (dependencies.provenance name) ++ shown ∧
        Listing.links shown = (Node.rule name definition).referencedNames.map fun n =>
          Markup.link ("#" ++ Text.escapeAttribute ((g.declaredName? n).getD n))
            (Text.escapeHtml n) := by
  have hanchor : anchorIn (some g) = fun n => (g.declaredName? n).getD n := rfl
  have hboxes := Drawing.references_rule hdiagram
  obtain ⟨shown, hshown, hlinks⟩ := Listing.links_rule rfl htext
  rw [hanchor] at hboxes hlinks
  rw [Node.referencedNames_eq, Node.references]
  exact ⟨hboxes, shown, hshown, hlinks⟩

/-- Hours of two digits, and perhaps a zone with an odd name. -/
def hours : Node :=
  .concatenation
    [.repetition (.group (.reference "DIGIT")) ⟨2, some 2⟩,
     .repetition (.group (.alternation [.prose "local", .reference "a<b"])) ⟨0, some 1⟩]

/-- A grammar that spells the digits in another way. -/
def clock : Grammar :=
  ⟨⟨[("hours", .rule "hours" hours), ("digit", .rule "Digit" (.range 48 57 .decimal))], by decide⟩,
    []⟩

/-- The hours refer to the digits as they are declared, and to the zone by its name. -/
theorem references_agree_hours :
    ∃ text diagram, (Listing.mk .none (.html .verbatim) (some clock) 4).rule (.rule "hours" hours) =
        .ok text ∧
      (Drawing.mk clock.entryPoints (some clock) true 4).rule (.rule "hours" hours) = .ok diagram ∧
      diagram.references = [.nonTerminal "DIGIT" "#Digit", .nonTerminal "a<b" "#a<b"] ∧
      ∃ shown, text = "<span class='rule'>" ++ "<dfn id=\"hours\">hours</dfn>" ++ shown ∧
        Listing.links shown =
          ["<a href=\"#Digit\">DIGIT</a>", "<a href=\"#a&lt;b\">a&lt;b</a>"] := by
  obtain ⟨text, htext⟩ := failure_eq_none_iff.1
    (((Listing.mk .none (.html .verbatim) (some clock) 4).rule_failure (.rule "hours" hours)).trans
      (by decide))
  obtain ⟨diagram, hdiagram⟩ := @Drawing.rule_of_listing _
    (Drawing.mk clock.entryPoints (some clock) true 4) _ _ rfl htext
  refine ⟨text, diagram, htext, hdiagram, ?_⟩
  have hagree := @references_agree _ _ _ _ (Drawing.mk clock.entryPoints (some clock) true 4)
    _ _ _ _ htext hdiagram
  rw [Node.referencedNames_eq] at hagree
  exact hagree

end Abnf
