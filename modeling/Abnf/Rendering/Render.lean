import Abnf.Listing.Write
import Abnf.Rendering.Basic

/-!
# Rendering a grammar

Each rule is written and drawn on its own; what the grammar contributes is the spelling of the
names, the dependencies and the entry points.  The first rule that cannot be rendered decides the
error.
-/

namespace Abnf

/-- What a rule is rendered with. -/
structure Renderer where
  /-- The grammar. -/
  grammar : Grammar
  /-- The dependencies of the grammar. -/
  dependencies : Dependencies
  /-- The options. -/
  options : Options := {}

namespace Renderer

/-- How the rules are written. -/
def listing (r : Renderer) (markup : Markup) : Listing where
  dependencies := r.dependencies
  markup := markup
  grammar := some r.grammar
  maxDepth := r.options.maxDepth

/-- How the rules are drawn. -/
def drawing (r : Renderer) : Drawing where
  entryPoints := r.grammar.entryPoints
  grammar := some r.grammar
  label := r.options.label
  maxDepth := r.options.maxDepth

/-- Whether a rule of the given provenance gets a diagram. -/
def draws (r : Renderer) (provenance : Provenance) : Bool :=
  provenance.isNative || r.options.diagrams = .always

/-- Renders a definition with an already known drawing. -/
def nodeWith (r : Renderer) (drawing : Drawing) (markup : Markup) (node : Node) :
    Except RenderError RenderedRule :=
  match node with
  | .rule name _ => do
    let text ← (r.listing markup).rule node
    let provenance := r.dependencies.provenance name
    let diagram ← if r.draws provenance then some <$> drawing.rule node else .ok none
    .ok ⟨name, provenance, drawing.entryPoints.contains name, text, diagram⟩
  | node => .error (Descent.expectedRule r.options.maxDepth node)

/-- Renders a definition of the grammar. -/
def node (r : Renderer) (markup : Markup) (node : Node) : Except RenderError RenderedRule :=
  r.nodeWith r.drawing markup node

/-- Renders all rules. -/
def all (r : Renderer) (markup : Markup) : Except RenderError Rendering := do
  let drawing := r.drawing
  let rules ← r.grammar.nodes.mapM (r.nodeWith drawing markup)
  .ok ⟨rules, r.options.layout⟩

/-- Renders the rule of a given name. -/
def rule (r : Renderer) (name : String) (markup : Markup) : Except RenderError RenderedRule :=
  match r.grammar.get? name with
  | some definition => r.node markup definition
  | none => .error (.unknownRule name)

/-- Renders the rule of a given name, or all rules if none is given. -/
def selected (r : Renderer) (name : Option String) (markup : Markup) :
    Except RenderError Rendering :=
  match name with
  | some name => (fun rule => ⟨[rule], r.options.layout⟩) <$> r.rule name markup
  | none => r.all markup

end Renderer

/-- Renders a grammar with HTML markup. -/
def Grammar.render (g : Grammar) (d : Dependencies) (options : Options) :
    Except RenderError Rendering :=
  Renderer.all ⟨g, d, options⟩ (.html options.links)

end Abnf
