import Abnf.Proofs.Tree

/-!
# The depth along the way

Both compilers change one record of the depth as they go.  Every part of their work that succeeds
leaves the depth as it has found it (`Compilation.Restores`), so that nodes side by side all find
the depth of their parent.  Hence the listing and the diagram of a node are functions of the depth
at which the node stands (`write_restores`, `lay_restores`); what is proved about the compilers
is proved about these functions.
-/

namespace Abnf

/-! ## Work that leaves the depth as it was -/

namespace Compilation

variable {α β : Type}

/-- A part of the work leaves the depth as it has found it, if it succeeds. -/
def LeavesDepth (x : Compilation α) : Prop :=
  ∀ (before later : Descent) (a : α), x.run before = .ok (a, later) → later = before

/-- A part of the work comes to what `f` gives for the depth that it finds, and leaves this
depth. -/
def Restores (x : Compilation α) (f : Descent → Except RenderError α) : Prop :=
  ∀ d, x.run d = (fun a => (a, d)) <$> f d

lemma run_below (x : Compilation α) (d : Descent) :
    x.below.run d = d.descend >>= fun here =>
      x.run here >>= fun p => .ok (p.1, p.2.ascend) := by
  rw [below, StateT.run_bind, StateT.run, descend]
  cases d.descend <;> rfl

namespace Restores

variable {x : Compilation α} {f : Descent → Except RenderError α}

lemma pure (a : α) : Restores (pure a) fun _ => .ok a := fun _ => rfl

lemma lift (x : Except RenderError α) : Restores (liftM x) fun _ => x := by
  intro d
  cases x <;> rfl

lemma map (h : Restores x f) (k : α → β) : Restores (k <$> x) fun d => k <$> f d := by
  intro d
  rw [StateT.run_map, h d]
  cases hf : f d <;> simp [hf]

lemma bind {y : α → Compilation β} {g : α → Descent → Except RenderError β} (hx : Restores x f)
    (hy : ∀ a, Restores (y a) (g a)) : Restores (x >>= y) fun d => f d >>= fun a => g a d := by
  intro d
  rw [StateT.run_bind, hx d]
  cases hf : f d with
  | error e => simp [hf, Bind.bind, Except.bind]
  | ok a => simpa [hf, Bind.bind, Except.bind] using hy a d

/-- What only looks at the depth leaves it. -/
lemma get {k : Descent → Compilation α} {g : Descent → Except RenderError α}
    (h : ∀ d, (k d).run d = (fun a => (a, d)) <$> g d) : Restores (get >>= k) g :=
  fun d => h d

/-- Coming up undoes going down, if what is done in between leaves the depth. -/
lemma below (h : Restores x f) : Restores x.below fun d => d.descend >>= f := by
  intro d
  rw [run_below]
  cases hdescend : d.descend with
  | error e => simp [hdescend, Bind.bind, Except.bind]
  | ok here =>
    cases hf : f here with
    | error e => simp [hdescend, h here, hf, Bind.bind, Except.bind]
    | ok a => simp [hdescend, h here, hf, Bind.bind, Except.bind, Descent.ascend_descend hdescend]

/-- The result of a part of the work, whatever it has done to the depth. -/
lemma run' (h : Restores x f) (d : Descent) : x.run' d = f d := by
  rw [StateT.run'_eq, h d]
  cases hf : f d <;> simp

lemma leavesDepth (h : Restores x f) : x.LeavesDepth := by
  intro before later a hrun
  rw [h before] at hrun
  obtain ⟨b, -, hb⟩ := Node.exists_of_map_eq_ok hrun
  exact (congrArg Prod.snd hb).symm

end Restores

end Compilation

namespace Node

/-! ## Writing -/

mutual

/-- The listing of a node below the given depth.  References link to the anchors that `anchor`
gives for them. -/
def list (markup : Markup) (anchor : String → String) (outer : Descent) (node : Node) :
    Except RenderError String := do
  let here ← outer.descend
  match node with
  | .rule _ _ => .error (here.malformed .rule Descent.nestedRule)
  | .literal casing text base =>
    markup.wrap (.literal casing) <$> here.literalText markup casing text base
  | .range first last base =>
    .ok (markup.wrap .range (markup.escape (base.encodeRange first last)))
  | .prose text => .ok (markup.wrap .prose (markup.escape ("<" ++ text ++ ">")))
  | .reference name => .ok (markup.refer name (anchor name))
  | .concatenation elements => do
    let parts ← listAll markup anchor here elements
    .ok (markup.wrap .concatenation (" ".intercalate parts))
  | .alternation choices => do
    let parts ← listAll markup anchor here choices
    .ok (markup.wrap .alternation (" / ".intercalate parts))
  | .group inner => do
    let text ← list markup anchor here inner
    .ok (markup.wrap .group ("(" ++ text ++ ")"))
  | .repetition element bounds =>
    if bounds.isOptional then do
      let text ←
        match element with
        | .group inner => list markup anchor here inner
        | element => list markup anchor here element
      .ok (markup.wrap .repetition ("[" ++ text ++ "]"))
    else do
      let text ← list markup anchor here element
      .ok (markup.wrap .repetition (bounds.star ++ text))

/-- The listings of several nodes. -/
def listAll (markup : Markup) (anchor : String → String) (outer : Descent) :
    List Node → Except RenderError (List String)
  | [] => .ok []
  | node :: rest => do
    let text ← list markup anchor outer node
    let texts ← listAll markup anchor outer rest
    .ok (text :: texts)

end

lemma list_repetition (markup : Markup) (anchor : String → String) (outer : Descent)
    (element : Node) (bounds : Repeat) :
    list markup anchor outer (.repetition element bounds) = (do
      let here ← outer.descend
      if bounds.isOptional then do
        let text ← list markup anchor here element.unwrapped
        .ok (markup.wrap .repetition ("[" ++ text ++ "]"))
      else do
        let text ← list markup anchor here element
        .ok (markup.wrap .repetition (bounds.star ++ text))) := by
  cases element <;> rfl

lemma write_repetition (markup : Markup) (anchor : String → String) (element : Node)
    (bounds : Repeat) :
    write markup anchor (.repetition element bounds) = .below (
      if bounds.isOptional then do
        let text ← write markup anchor element.unwrapped
        return markup.wrap .repetition ("[" ++ text ++ "]")
      else do
        let text ← write markup anchor element
        return markup.wrap .repetition (bounds.star ++ text)) := by
  cases element <;> rfl

lemma writeAll_restores {markup : Markup} {anchor : String → String} {nodes : List Node}
    (ih : ∀ node ∈ nodes,
      (write markup anchor node).Restores fun d => list markup anchor d node) :
    (writeAll markup anchor nodes).Restores fun d => listAll markup anchor d nodes := by
  induction nodes with
  | nil => exact .pure []
  | cons node rest ihr =>
    have hrest := ihr fun other ho => ih other (List.mem_cons_of_mem _ ho)
    exact (ih node List.mem_cons_self).bind fun text => hrest.bind fun texts => .pure _

/-- Writing a node leaves the depth as it was. -/
theorem write_restores (markup : Markup) (anchor : String → String) (node : Node) :
    (write markup anchor node).Restores fun d => list markup anchor d node := by
  induction node with
  | rule name definition ih => exact .below (.get fun _ => rfl)
  | literal casing text base =>
    exact .below (.get fun d => (Compilation.Restores.lift _).map _ d)
  | range first last base => exact .below (.pure _)
  | prose text => exact .below (.pure _)
  | reference name => exact .below (.pure _)
  | concatenation elements ih => exact .below ((writeAll_restores ih).bind fun _ => .pure _)
  | alternation choices ih => exact .below ((writeAll_restores ih).bind fun _ => .pure _)
  | group inner ih => exact .below (ih.bind fun _ => .pure _)
  | repetition element bounds ih ihu =>
    rw [write_repetition]
    simp only [list_repetition]
    refine .below ?_
    cases bounds.isOptional with
    | true => exact ihu.bind fun _ => .pure _
    | false => exact ih.bind fun _ => .pure _

/-! ## Drawing -/

mutual

/-- The diagram of a node below the given depth.  References link to the anchors that `anchor`
gives for them. -/
def draw (anchor : String → String) (outer : Descent) (node : Node) :
    Except RenderError Diagram := do
  let here ← outer.descend
  match node with
  | .rule _ _ => .error (here.malformed .rule Descent.nestedRule)
  | .literal casing text base =>
    .terminal <$> here.terminalText (.literal casing) text base
  | .range first last base => .ok (.terminal (base.encodeRange first last))
  | .prose text => .ok (.terminal ("<" ++ text ++ ">"))
  | .reference name => .ok (.linkTo name (anchor name))
  | .concatenation elements => .sequence <$> drawAll anchor here elements
  | .alternation choices => .choice 0 <$> drawAll anchor here choices
  | .group inner => .group <$> draw anchor here inner
  | .repetition element bounds =>
    match element with
    | .group inner => bounds.draw <$> draw anchor here inner
    | element => bounds.draw <$> draw anchor here element

/-- The diagrams of several nodes. -/
def drawAll (anchor : String → String) (outer : Descent) :
    List Node → Except RenderError (List Diagram)
  | [] => .ok []
  | node :: rest => do
    let d ← draw anchor outer node
    let ds ← drawAll anchor outer rest
    .ok (d :: ds)

end

lemma draw_repetition (anchor : String → String) (outer : Descent) (element : Node)
    (bounds : Repeat) :
    draw anchor outer (.repetition element bounds) = (do
      let here ← outer.descend
      bounds.draw <$> draw anchor here element.unwrapped) := by
  cases element <;> rfl

lemma lay_repetition (anchor : String → String) (element : Node) (bounds : Repeat) :
    lay anchor (.repetition element bounds) =
      .below (bounds.draw <$> lay anchor element.unwrapped) := by
  cases element <;> rfl

lemma layAll_restores {anchor : String → String} {nodes : List Node}
    (ih : ∀ node ∈ nodes, (lay anchor node).Restores fun d => draw anchor d node) :
    (layAll anchor nodes).Restores fun d => drawAll anchor d nodes := by
  induction nodes with
  | nil => exact .pure []
  | cons node rest ihr =>
    have hrest := ihr fun other ho => ih other (List.mem_cons_of_mem _ ho)
    exact (ih node List.mem_cons_self).bind fun diagram => hrest.bind fun diagrams => .pure _

/-- Laying the tracks of a node leaves the depth as it was. -/
theorem lay_restores (anchor : String → String) (node : Node) :
    (lay anchor node).Restores fun d => draw anchor d node := by
  induction node with
  | rule name definition ih => exact .below (.get fun _ => rfl)
  | literal casing text base =>
    exact .below (.get fun d => (Compilation.Restores.lift _).map _ d)
  | range first last base => exact .below (.pure _)
  | prose text => exact .below (.pure _)
  | reference name => exact .below (.pure _)
  | concatenation elements ih => exact .below ((layAll_restores ih).map _)
  | alternation choices ih => exact .below ((layAll_restores ih).map _)
  | group inner ih => exact .below (ih.map _)
  | repetition element bounds ih ihu =>
    rw [lay_repetition]
    simp only [draw_repetition]
    exact .below (ihu.map _)

end Node

/-! ## Rules -/

/-- A rule is written with the listing of its definition at the top. -/
lemma Listing.rule_eq (listing : Listing) (name : String) (definition : Node) :
    listing.rule (.rule name definition) = (do
      let body ← definition.list listing.markup (anchorIn listing.grammar)
        { rule := name, limit := listing.maxDepth }
      let declared := listing.markup.declare name (listing.dependencies.provenance name)
      .ok (listing.markup.wrap .rule (declared ++ " = " ++ body))) := by
  rw [rule, (Node.write_restores _ _ _).run']

/-- A rule is drawn with the diagram of its definition at the top. -/
lemma Drawing.rule_eq (drawing : Drawing) (name : String) (definition : Node) :
    drawing.rule (.rule name definition) =
      drawing.whole name <$> definition.draw (anchorIn drawing.grammar)
        { rule := name, limit := drawing.maxDepth } := by
  rw [rule, (Node.lay_restores _ _).run']

end Abnf
