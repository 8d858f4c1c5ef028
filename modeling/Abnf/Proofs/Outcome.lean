import Abnf.Proofs.Visits
import Abnf.Rendering.Render

/-!
# What the outcome of a rendering depends on

Whether a rendering succeeds, and with which error it fails, is decided by the grammar, the greatest
depth and the name that is asked for: a definition is drawn only after it has been written, and what
can be written can be drawn.  The dependencies, the markup and the other options decide only what a
successful rendering looks like, and of them the policy, the labels, the links and the layout touch
what they are named for and nothing else (`selected_outcome`).
-/

namespace Abnf

namespace Diagram

/-- The first item of a whole diagram. -/
def first? : Diagram → Option Diagram
  | .diagram items | .complexDiagram items => items.head?
  | _ => none

/-- A whole diagram without its first item. -/
def withoutFirst : Diagram → Diagram
  | .diagram items => .diagram items.tail
  | .complexDiagram items => .complexDiagram items.tail
  | part => part

end Diagram

/-- A rendering whose rules are changed by `f`. -/
def Rendering.mapRules (f : RenderedRule → RenderedRule) (R : Rendering) : Rendering :=
  { R with rules := R.rules.map f }

/-! ## The rendering of a single definition -/

namespace Renderer

/-- What rendering a rule comes to once it has been written. -/
lemma node_of_listing {r : Renderer} {markup : Markup} {name : String} {definition : Node}
    {text : String} {body : Diagram}
    (htext : (r.listing markup).rule (.rule name definition) = .ok text)
    (hbody : definition.draw (anchorIn (some r.grammar))
      { rule := name, limit := r.options.maxDepth } = .ok body) :
    r.node markup (.rule name definition) = .ok
      ⟨name, r.dependencies.provenance name, r.grammar.entryPoints.contains name, text,
        if r.draws (r.dependencies.provenance name) then some (r.drawing.whole name body)
        else none⟩ := by
  have hdraw : r.drawing.rule (.rule name definition) = .ok (r.drawing.whole name body) := by
    rw [Drawing.rule_eq, drawing, hbody]
    rfl
  rw [node, nodeWith, htext, hdraw]
  cases hdraws : r.draws (r.dependencies.provenance name) <;>
    simp [hdraws, bind, Except.bind, drawing]

/-- A rule that is not written is not rendered. -/
lemma node_of_listing_error {r : Renderer} {markup : Markup} {name : String} {definition : Node}
    {e : RenderError} (htext : (r.listing markup).rule (.rule name definition) = .error e) :
    r.node markup (.rule name definition) = .error e := by
  rw [node, nodeWith, htext]
  rfl

/-- What rendering a rule comes to: an error that only the rule and the depth decide, or the
listing and the diagram of the rule with what is known of it. -/
lemma node_cases (r : Renderer) (markup : Markup) (name : String) (definition : Node) :
    (∃ e, (r.listing markup).rule (.rule name definition) = .error e ∧
      r.node markup (.rule name definition) = .error e) ∨
    ∃ text body, (r.listing markup).rule (.rule name definition) = .ok text ∧
      definition.draw (anchorIn (some r.grammar))
        { rule := name, limit := r.options.maxDepth } = .ok body ∧
      r.node markup (.rule name definition) = .ok
        ⟨name, r.dependencies.provenance name, r.grammar.entryPoints.contains name, text,
          if r.draws (r.dependencies.provenance name) then some (r.drawing.whole name body)
          else none⟩ := by
  cases htext : (r.listing markup).rule (.rule name definition) with
  | error e => exact Or.inl ⟨e, rfl, node_of_listing_error htext⟩
  | ok text =>
    obtain ⟨diagram, hdraw⟩ :=
      Drawing.rule_of_listing (show r.drawing.maxDepth = (r.listing markup).maxDepth from rfl) htext
    obtain ⟨body, hbody⟩ : ∃ body, definition.draw (anchorIn (some r.grammar))
        { rule := name, limit := r.options.maxDepth } = .ok body := by
      cases hbody : definition.draw (anchorIn (some r.grammar))
          { rule := name, limit := r.options.maxDepth } with
      | error e => simp [Drawing.rule_eq, drawing, hbody] at hdraw
      | ok body => exact ⟨body, rfl⟩
    exact Or.inr ⟨text, body, rfl, hbody, node_of_listing htext hbody⟩

/-- What a rule that has been rendered is made of. -/
lemma parts_of_node {r : Renderer} {markup : Markup} {node : Node} {rule : RenderedRule}
    (h : r.node markup node = .ok rule) :
    ∃ definition body, node = .rule rule.name definition ∧
      (r.listing markup).rule node = .ok rule.text ∧
      r.drawing.rule node = .ok (r.drawing.whole rule.name body) ∧
      rule.provenance = r.dependencies.provenance rule.name ∧
      rule.entryPoint = r.grammar.entryPoints.contains rule.name ∧
      rule.diagram =
        if r.draws rule.provenance then some (r.drawing.whole rule.name body) else none := by
  cases node with
  | rule name definition =>
    rcases node_cases r markup name definition with
      ⟨e, -, hnode⟩ | ⟨text, body, htext, hbody, hnode⟩
    · simp [hnode] at h
    · rw [hnode] at h
      obtain rfl := Except.ok.inj h
      have hdraw : r.drawing.rule (.rule name definition) = .ok (r.drawing.whole name body) := by
        rw [Drawing.rule_eq, drawing, hbody]
        rfl
      exact ⟨definition, body, rfl, htext, hdraw, rfl, rfl, rfl⟩
  | _ => simp [Renderer.node, nodeWith] at h

/-- A definition is rendered unless something is wrong with it. -/
lemma node_failure (r : Renderer) (markup : Markup) (node : Node) :
    failure (r.node markup node) = node.ruleFault r.options.maxDepth := by
  cases node with
  | rule name definition =>
    have hlisting := Listing.rule_failure (r.listing markup) (.rule name definition)
    rcases r.node_cases markup name definition with ⟨e, htext, hnode⟩ | ⟨_, _, htext, _, hnode⟩
    · rw [htext] at hlisting
      rw [hnode]
      exact hlisting
    · rw [htext] at hlisting
      rw [hnode]
      exact hlisting
  | _ => rfl

end Renderer

/-! ## From definitions to renderings -/

/-- The definitions that are rendered when a name, or none, is asked for. -/
def Grammar.chosen (g : Grammar) (name : Option String) : Except RenderError (List Node) :=
  match name with
  | none => .ok g.nodes
  | some name =>
    match g.get? name with
    | some definition => .ok [definition]
    | none => .error (.unknownRule name)

namespace Renderer

/-- A rendering takes the chosen definitions one after the other. -/
lemma selected_eq (r : Renderer) (name : Option String) (markup : Markup) :
    r.selected name markup = (do
      let definitions ← r.grammar.chosen name
      let rules ← definitions.mapM (r.node markup)
      .ok ⟨rules, r.options.layout⟩) := by
  cases name with
  | none => rfl
  | some name =>
    rw [selected, rule, Grammar.chosen]
    cases r.grammar.get? name with
    | none => rfl
    | some definition =>
      show (fun rule => Rendering.mk [rule] r.options.layout) <$> r.node markup definition =
        [definition].mapM (r.node markup) >>= fun rules => .ok ⟨rules, r.options.layout⟩
      rw [List.mapM_cons, List.mapM_nil]
      cases r.node markup definition <;> rfl

/-- The error of a rendering, from the grammar, the greatest depth and the name alone. -/
lemma selected_failure (r : Renderer) (name : Option String) (markup : Markup) :
    failure (r.selected name markup) =
      match r.grammar.chosen name with
      | .error e => some e
      | .ok definitions => definitions.findSome? (Node.ruleFault r.options.maxDepth) := by
  rw [selected_eq]
  cases r.grammar.chosen name with
  | error e => rfl
  | ok definitions =>
    have hfault : (fun node => failure (r.node markup node)) =
        Node.ruleFault r.options.maxDepth := funext (r.node_failure markup)
    have hbind := failure_bind_ok (definitions.mapM (r.node markup))
      fun rules => Rendering.mk rules r.options.layout
    rw [failure_mapM, hfault] at hbind
    exact hbind

/-- All rules are shown if nothing is wrong with any definition. -/
lemma exists_all (r : Renderer) (markup : Markup)
    (h : r.grammar.nodes.findSome? (Node.ruleFault r.options.maxDepth) = none) :
    ∃ R, r.all markup = .ok R :=
  failure_eq_none_iff.1 ((r.selected_failure none markup).trans h)

end Renderer

/-- Changing the results of computations one after the other is changing each of them. -/
lemma map_mapM {α β γ : Type} (f : α → Except RenderError β) (g : β → γ) (as : List α) :
    List.map g <$> as.mapM f = as.mapM fun a => g <$> f a := by
  induction as with
  | nil => rfl
  | cons a rest ih =>
    rw [List.mapM_cons, List.mapM_cons, ← ih]
    cases f a with
    | error e => rfl
    | ok b => cases rest.mapM f <;> rfl

namespace Renderer

/-- Two renderers of one grammar whose rules agree, up to `f` and `f'`, have renderings that
agree. -/
lemma selected_congr {r r' : Renderer} {markup markup' : Markup} {γ : Type}
    {f f' : RenderedRule → γ}
    (h : ∀ node, f <$> r.node markup node = f' <$> r'.node markup' node)
    (hgrammar : r.grammar = r'.grammar) (name : Option String) :
    (fun R => R.rules.map f) <$> r.selected name markup =
      (fun R => R.rules.map f') <$> r'.selected name markup' := by
  rw [selected_eq, selected_eq, hgrammar]
  cases r'.grammar.chosen name with
  | error e => rfl
  | ok definitions =>
    have hlist : List.map f <$> definitions.mapM (r.node markup) =
        List.map f' <$> definitions.mapM (r'.node markup') := by
      rw [map_mapM, map_mapM, funext h]
    have hrules : ∀ (r : Renderer) (markup : Markup) (f : RenderedRule → γ),
        (fun R => R.rules.map f) <$> (definitions.mapM (r.node markup) >>= fun rules =>
          Except.ok (Rendering.mk rules r.options.layout)) =
        List.map f <$> definitions.mapM (r.node markup) := by
      intro r markup f
      cases definitions.mapM (r.node markup) <;> rfl
    rw [ok_bind, ok_bind, hrules, hrules, hlist]

/-- Where the rules of one renderer are those of another, changed by `f`, so are the
renderings. -/
lemma selected_map {r r' : Renderer} {markup : Markup} {f : RenderedRule → RenderedRule}
    (h : ∀ node, r.node markup node = f <$> r'.node markup node)
    (hgrammar : r.grammar = r'.grammar) (hlayout : r.options.layout = r'.options.layout)
    (name : Option String) :
    r.selected name markup = Rendering.mapRules f <$> r'.selected name markup := by
  rw [selected_eq, selected_eq, hgrammar, hlayout]
  cases r'.grammar.chosen name with
  | error e => rfl
  | ok definitions =>
    have hlist : definitions.mapM (r.node markup) =
        List.map f <$> definitions.mapM (r'.node markup) := by
      rw [map_mapM, funext h]
    rw [ok_bind, ok_bind, hlist]
    cases definitions.mapM (r'.node markup) <;> rfl

end Renderer

/-! ## What the options change -/

namespace Drawing

/-- A labelled diagram begins with the name of its rule. -/
lemma first?_whole {drawing : Drawing} (h : drawing.label = true) (name : String)
    (body : Diagram) : (drawing.whole name body).first? = some (.comment name) := by
  cases hentry : drawing.entryPoints.contains name <;> simp [whole, h, hentry, Diagram.first?]

/-- Without labels the diagrams are those with labels but for their first items. -/
lemma whole_unlabelled (drawing : Drawing) (name : String) (body : Diagram) :
    ({ drawing with label := false } : Drawing).whole name body =
      (({ drawing with label := true } : Drawing).whole name body).withoutFirst := by
  cases hentry : drawing.entryPoints.contains name <;>
    simp [whole, hentry, Diagram.withoutFirst]

end Drawing

namespace RenderedRule

/-- A rule without its diagram if it is defined by another grammar. -/
def withoutForeignDiagram (rule : RenderedRule) : RenderedRule :=
  if rule.provenance.isNative then rule else { rule with diagram := none }

/-- A rule whose diagram has lost its first item. -/
def withoutLabel (rule : RenderedRule) : RenderedRule :=
  { rule with diagram := rule.diagram.map Diagram.withoutFirst }

/-- What is known of a rule apart from its listing. -/
def facts (rule : RenderedRule) : String × Provenance × Bool × Option Diagram :=
  (rule.name, rule.provenance, rule.entryPoint, rule.diagram)

end RenderedRule

namespace Renderer

variable (g : Grammar) (d : Dependencies) (o : Options)

/-- Skipping the diagrams of other grammars takes those diagrams away. -/
lemma node_skipForeign (markup : Markup) (node : Node) :
    (Renderer.mk g d { o with diagrams := .skipForeign }).node markup node =
      RenderedRule.withoutForeignDiagram <$>
        (Renderer.mk g d { o with diagrams := .always }).node markup node := by
  cases node with
  | rule name definition =>
    rcases node_cases (Renderer.mk g d { o with diagrams := .always }) markup name definition with
      ⟨e, htext, hnode⟩ | ⟨text, body, htext, hbody, hnode⟩
    · rw [hnode]
      exact node_of_listing_error (r := Renderer.mk g d { o with diagrams := .skipForeign }) htext
    · have hskip := node_of_listing
        (r := Renderer.mk g d { o with diagrams := .skipForeign }) htext hbody
      rw [hnode, hskip]
      cases hnative : (d.provenance name).isNative <;>
        simp [RenderedRule.withoutForeignDiagram, draws, hnative, drawing]
  | _ => rfl

/-- Leaving the labels out takes the first item from every diagram. -/
lemma node_unlabelled (markup : Markup) (node : Node) :
    (Renderer.mk g d { o with label := false }).node markup node =
      RenderedRule.withoutLabel <$>
        (Renderer.mk g d { o with label := true }).node markup node := by
  cases node with
  | rule name definition =>
    rcases node_cases (Renderer.mk g d { o with label := true }) markup name definition with
      ⟨e, htext, hnode⟩ | ⟨text, body, htext, hbody, hnode⟩
    · rw [hnode]
      exact node_of_listing_error (r := Renderer.mk g d { o with label := false }) htext
    · have hresult : ∀ label, (Renderer.mk g d { o with label := label }).node markup
          (.rule name definition) = .ok
            ⟨name, d.provenance name, g.entryPoints.contains name, text,
              if (Renderer.mk g d o).draws (d.provenance name) then
                some
                  (({ (Renderer.mk g d o).drawing with label := label } : Drawing).whole name body)
              else none⟩ := fun label =>
        node_of_listing (r := Renderer.mk g d { o with label := label }) htext hbody
      rw [hresult, hresult, Drawing.whole_unlabelled]
      by_cases hdraws : (Renderer.mk g d o).draws (d.provenance name) = true <;>
        simp [RenderedRule.withoutLabel, hdraws]
  | _ => rfl

/-- With labels, the diagram of a rule begins with its name. -/
lemma first?_of_node {markup : Markup} {node : Node} {rule : RenderedRule} {diagram : Diagram}
    (hrule : (Renderer.mk g d { o with label := true }).node markup node = .ok rule)
    (hdiagram : rule.diagram = some diagram) : diagram.first? = some (.comment rule.name) := by
  obtain ⟨_, body, -, -, -, -, -, hparts⟩ := parts_of_node hrule
  rw [hdiagram] at hparts
  split at hparts
  · rw [Option.some.inj hparts]
    exact Drawing.first?_whole rfl rule.name body
  · simp at hparts

/-- Neither the markup nor the links nor the layout change what is known of a rule apart from its
listing. -/
lemma node_facts (markup markup' : Markup) (links : LinkStyle) (layout : Layout) (node : Node) :
    RenderedRule.facts <$>
        (Renderer.mk g d { o with links := links, layout := layout }).node markup' node =
      RenderedRule.facts <$> (Renderer.mk g d o).node markup node := by
  cases node with
  | rule name definition =>
    have hfail : failure ((Renderer.mk g d { o with links := links, layout := layout }).node markup'
        (.rule name definition)) =
        failure ((Renderer.mk g d o).node markup (.rule name definition)) := by
      rw [node_failure, node_failure]
    rcases node_cases (Renderer.mk g d o) markup name definition with
      ⟨e, htext, hnode⟩ | ⟨text, body, htext, hbody, hnode⟩
    · rcases node_cases (Renderer.mk g d { o with links := links, layout := layout }) markup' name
        definition with ⟨e', -, hnode'⟩ | ⟨text', body', -, -, hnode'⟩
      · rw [hnode, hnode'] at hfail
        obtain rfl : e' = e := Option.some.inj hfail
        rw [hnode, hnode']
      · rw [hnode, hnode'] at hfail
        simp at hfail
    · rcases node_cases (Renderer.mk g d { o with links := links, layout := layout }) markup' name
        definition with ⟨e', -, hnode'⟩ | ⟨text', body', -, hbody', hnode'⟩
      · rw [hnode, hnode'] at hfail
        simp at hfail
      · obtain rfl : body = body' := Except.ok.inj (hbody.symm.trans hbody')
        rw [hnode, hnode']
        rfl
  | _ => rfl

end Renderer

/-- Computations one after the other give their results in order. -/
lemma forall₂_of_mapM {α β : Type} {f : α → Except RenderError β} {as : List α} {bs : List β}
    (h : as.mapM f = .ok bs) : List.Forall₂ (fun a b => f a = .ok b) as bs := by
  induction as generalizing bs with
  | nil =>
    obtain rfl : [] = bs := Except.ok.inj h
    exact .nil
  | cons a rest ih =>
    rw [List.mapM_cons] at h
    obtain ⟨b, hb, h⟩ := Node.exists_of_bind_eq_ok h
    obtain ⟨others, hothers, h⟩ := Node.exists_of_bind_eq_ok h
    obtain rfl : b :: others = bs := Except.ok.inj h
    exact .cons hb (ih hothers)

lemma exists_of_mem_left {α β : Type} {R : α → β → Prop} {as : List α} {bs : List β}
    (h : List.Forall₂ R as bs) {a : α} (ha : a ∈ as) : ∃ b ∈ bs, R a b := by
  induction h with
  | nil => simp at ha
  | @cons a' b as bs hab _ ih =>
    rcases List.mem_cons.1 ha with rfl | hmem
    · exact ⟨b, by simp, hab⟩
    · obtain ⟨b', hb', hR⟩ := ih hmem
      exact ⟨b', by simp [hb'], hR⟩

/-- What is computed from the elements of a list one after the other is computed from some
element. -/
lemma exists_of_mem_mapM {α β : Type} {f : α → Except RenderError β} {as : List α} {bs : List β}
    {b : β} (h : as.mapM f = .ok bs) (hb : b ∈ bs) : ∃ a ∈ as, f a = .ok b :=
  exists_of_mem_left (forall₂_of_mapM h).flip hb

namespace Renderer

/-- The rules of a rendered grammar are its definitions, in order. -/
lemma forall₂_of_all {r : Renderer} {markup : Markup} {R : Rendering}
    (h : r.all markup = .ok R) :
    List.Forall₂ (fun node rule => r.node markup node = .ok rule) r.grammar.nodes R.rules := by
  rw [all] at h
  obtain ⟨rules, hrules, heq⟩ := Node.exists_of_bind_eq_ok h
  obtain rfl := Except.ok.inj heq
  exact forall₂_of_mapM hrules

/-- Every rule of a rendering is a definition that has been rendered. -/
lemma exists_node_of_mem {r : Renderer} {name : Option String} {markup : Markup} {R : Rendering}
    {rule : RenderedRule} (h : r.selected name markup = .ok R) (hrule : rule ∈ R.rules) :
    ∃ node, r.node markup node = .ok rule := by
  rw [selected_eq] at h
  cases hchosen : r.grammar.chosen name with
  | error e => simp [hchosen] at h
  | ok definitions =>
    rw [hchosen, ok_bind] at h
    cases hrules : definitions.mapM (r.node markup) with
    | error e => simp [hrules] at h
    | ok rules =>
      rw [hrules, ok_bind] at h
      obtain rfl := Except.ok.inj h
      obtain ⟨node, -, hnode⟩ := exists_of_mem_mapM hrules hrule
      exact ⟨node, hnode⟩

/-- **The outcome of a rendering.**  For a grammar, a greatest depth and a name or none, either
every rendering fails, always with the same error, or every rendering succeeds, whatever the
dependencies, the markup and the other options are; for what can be written can be drawn.  Skipping
the diagrams of other grammars removes these diagrams; leaving the labels out removes the first item
of every diagram, which is the name of the rule; and markup, links and layout leave all that is
known of a rule but its listing as it is. -/
theorem selected_outcome (g : Grammar) (limit : Nat) (name : Option String) :
    ((∃ e, ∀ (d : Dependencies) (o : Options) (markup : Markup),
        (Renderer.mk g d { o with maxDepth := limit }).selected name markup = .error e) ∨
      (∀ (d : Dependencies) (o : Options) (markup : Markup),
        ∃ R, (Renderer.mk g d { o with maxDepth := limit }).selected name markup = .ok R)) ∧
    (∀ (d : Dependencies) (o : Options) (markup : Markup) (node : Node) (text : String),
      ((Renderer.mk g d o).listing markup).rule node = .ok text →
        ∃ diagram, (Renderer.mk g d o).drawing.rule node = .ok diagram) ∧
    (∀ (d : Dependencies) (o : Options) (markup : Markup),
      (Renderer.mk g d { o with diagrams := .skipForeign }).selected name markup =
        Rendering.mapRules RenderedRule.withoutForeignDiagram <$>
          (Renderer.mk g d { o with diagrams := .always }).selected name markup) ∧
    (∀ (d : Dependencies) (o : Options) (markup : Markup),
      (Renderer.mk g d { o with label := false }).selected name markup =
          Rendering.mapRules RenderedRule.withoutLabel <$>
            (Renderer.mk g d { o with label := true }).selected name markup ∧
        ∀ R, (Renderer.mk g d { o with label := true }).selected name markup = .ok R →
          ∀ rule ∈ R.rules, ∀ diagram, rule.diagram = some diagram →
            diagram.first? = some (.comment rule.name)) ∧
    (∀ (d : Dependencies) (o : Options) (markup markup' : Markup) (links : LinkStyle)
        (layout : Layout),
      (fun R => R.rules.map RenderedRule.facts) <$>
          (Renderer.mk g d { o with links := links, layout := layout }).selected name markup' =
        (fun R => R.rules.map RenderedRule.facts) <$>
          (Renderer.mk g d o).selected name markup) := by
  refine ⟨?_, ?_, ?_, ?_, ?_⟩
  · cases hfault : (match g.chosen name with
        | .error e => some e
        | .ok definitions => definitions.findSome? (Node.ruleFault limit)) with
    | some e =>
      refine Or.inl ⟨e, fun d o markup => failure_eq_some_iff.1 ?_⟩
      rw [selected_failure]
      exact hfault
    | none =>
      refine Or.inr fun d o markup => failure_eq_none_iff.1 ?_
      rw [selected_failure]
      exact hfault
  · intro d o markup node text htext
    exact Drawing.rule_of_listing rfl htext
  · intro d o markup
    exact selected_map (node_skipForeign g d o markup) rfl rfl name
  · intro d o markup
    constructor
    · exact selected_map (node_unlabelled g d o markup) rfl rfl name
    · intro R hR rule hrule diagram hdiagram
      obtain ⟨node, hnode⟩ := exists_node_of_mem hR hrule
      exact first?_of_node g d o hnode hdiagram
  · intro d o markup markup' links layout
    exact selected_congr (node_facts g d o markup markup' links layout) rfl name

/-- A rule of two digits whose group lies at the greatest depth that is allowed below. -/
def pairs : Grammar :=
  ⟨⟨[("pair", .rule "pair" (.repetition (.group (.reference "DIGIT")) ⟨2, some 2⟩)),
     ("DIGIT", .rule "DIGIT" (.range 48 57 .decimal))], by decide⟩, []⟩

/-- Since the pairs can be rendered as plain text, they can be rendered as HTML with all diagrams
and with digits from elsewhere. -/
theorem selected_outcome_pairs :
    ∃ R, (Renderer.mk pairs (Dependencies.none.addImport "DIGIT" "RFC5234")
      { maxDepth := 3, diagrams := .always }).selected none (.html .verbatim) = .ok R := by
  have hplain : failure ((Renderer.mk pairs .none { maxDepth := 3 }).selected none .plain) =
      none := by
    rw [selected_failure]
    decide
  rcases (selected_outcome pairs 3 none).1 with ⟨e, he⟩ | hall
  · have herror : (Renderer.mk pairs .none { maxDepth := 3 }).selected none .plain = .error e :=
      he .none {} .plain
    rw [herror] at hplain
    simp at hplain
  · exact hall (Dependencies.none.addImport "DIGIT" "RFC5234") { diagrams := .always }
      (.html .verbatim)

end Renderer

end Abnf
