import Abnf.Proofs.Faults

/-!
# When writing and drawing succeed

A definition is written or drawn unless one of the nodes that are visited lies too deep or has no
meaning below the top; then the first of these nodes, each node before those below it and from left
to right, decides the error.  Going deeper is all that a greater limit allows: what succeeds under
one limit succeeds under every greater one, with the same outcome (`Extends`).  Both compilers are
decided in this way, each by its own visits, since every part of their work that succeeds puts the
depth back for the nodes after it (`rule_decided`).
-/

namespace Abnf

/-! ## Computations that give what others give -/

/-- The second computation gives whatever the first one gives, but may succeed where that fails. -/
def Extends {α : Type} (x y : Except RenderError α) : Prop := ∀ a, x = .ok a → y = .ok a

namespace Extends

variable {α β : Type} {x y : Except RenderError α} {f g : α → Except RenderError β}

lemma refl (x : Except RenderError α) : Extends x x := fun _ h => h

lemma of_error (e : RenderError) : Extends (.error e) y := fun _ h => by simp at h

lemma bind (h : Extends x y) (hfg : ∀ a, Extends (f a) (g a)) : Extends (x >>= f) (y >>= g) := by
  intro b hb
  obtain ⟨a, ha, hfa⟩ := Node.exists_of_bind_eq_ok hb
  rw [h a ha]
  exact hfg a b hfa

lemma map (h : Extends x y) (k : α → β) : Extends (k <$> x) (k <$> y) := by
  intro b hb
  obtain ⟨a, ha, rfl⟩ := Node.exists_of_map_eq_ok hb
  rw [h a ha]
  rfl

/-- One level further down a greater limit still allows for more. -/
lemma descend {d : Descent} {limit : Nat} (hle : d.limit ≤ limit)
    {f g : Descent → Except RenderError α}
    (h : ∀ here : Descent, here.limit ≤ limit → Extends (f here) (g { here with limit := limit })) :
    Extends (d.descend >>= f) (({ d with limit := limit } : Descent).descend >>= g) := by
  intro a ha
  obtain ⟨here, hhere, hfa⟩ := Node.exists_of_bind_eq_ok ha
  obtain ⟨hlt, rfl⟩ := Descent.descend_eq_ok.1 hhere
  have hdescend : ({ d with limit := limit } : Descent).descend =
      .ok { d with limit := limit, depth := d.depth + 1 } :=
    Descent.descend_eq_ok.2 ⟨Nat.lt_of_lt_of_le hlt hle, rfl⟩
  rw [hdescend]
  exact h { d with depth := d.depth + 1 } hle a hfa

end Extends

namespace Node

/-! ## Greater limits -/

variable {d : Descent} {limit : Nat} {markup : Markup} {anchor : String → String}

lemma extends_literalText (d : Descent) (limit : Nat) (markup : Markup) (casing : Casing)
    (text : String) (base : Option Base) :
    Extends (d.literalText markup casing text base)
      (({ d with limit := limit } : Descent).literalText markup casing text base) := by
  cases base with
  | none => exact .refl _
  | some b =>
    rw [Descent.literalText, Descent.literalText]
    cases b.encodeText text with
    | none => exact .of_error _
    | some codes => exact .refl _

lemma extends_terminalText (d : Descent) (limit : Nat) (kind : Kind) (text : String)
    (base : Option Base) :
    Extends (d.terminalText kind text base)
      (({ d with limit := limit } : Descent).terminalText kind text base) := by
  cases base with
  | none => exact .refl _
  | some b =>
    rw [Descent.terminalText, Descent.terminalText]
    cases b.encodeFirst text with
    | none => exact .of_error _
    | some code => exact .refl _

lemma extends_listAll {nodes : List Node}
    (ih : ∀ node ∈ nodes, ∀ {d : Descent}, d.limit ≤ limit → Extends (list markup anchor d node)
      (list markup anchor { d with limit := limit } node)) (hle : d.limit ≤ limit) :
    Extends (listAll markup anchor d nodes)
      (listAll markup anchor { d with limit := limit } nodes) := by
  induction nodes with
  | nil => exact .refl _
  | cons node rest ihr =>
    have hnode := ih node (by simp) hle
    have hrest := ihr fun other ho => ih other (by simp [ho])
    rw [listAll, listAll]
    exact hnode.bind fun _ => hrest.bind fun _ => .refl _

/-- What is written under one limit is written in the same way under a greater one. -/
theorem extends_list (node : Node) (hle : d.limit ≤ limit) :
    Extends (list markup anchor d node) (list markup anchor { d with limit := limit } node) := by
  induction node generalizing d with
  | rule name definition ih =>
    rw [list, list]
    exact .descend hle fun _ _ => .of_error _
  | literal casing text base =>
    rw [list, list]
    exact .descend hle fun here _ => (extends_literalText here limit markup casing text base).map _
  | range first last base =>
    rw [list, list]
    exact .descend hle fun _ _ => .refl _
  | prose text =>
    rw [list, list]
    exact .descend hle fun _ _ => .refl _
  | reference name =>
    rw [list, list]
    exact .descend hle fun _ _ => .refl _
  | concatenation elements ih =>
    rw [list, list]
    exact .descend hle fun _ hhere => (extends_listAll ih hhere).bind fun _ => .refl _
  | alternation choices ih =>
    rw [list, list]
    exact .descend hle fun _ hhere => (extends_listAll ih hhere).bind fun _ => .refl _
  | group inner ih =>
    rw [list, list]
    exact .descend hle fun _ hhere => (ih hhere).bind fun _ => .refl _
  | repetition element bounds ih ihu =>
    rw [list_repetition, list_repetition]
    refine .descend hle fun _ hhere => ?_
    split
    · exact (ihu hhere).bind fun _ => .refl _
    · exact (ih hhere).bind fun _ => .refl _

lemma extends_drawAll {nodes : List Node}
    (ih : ∀ node ∈ nodes, ∀ {d : Descent}, d.limit ≤ limit → Extends (draw anchor d node)
      (draw anchor { d with limit := limit } node)) (hle : d.limit ≤ limit) :
    Extends (drawAll anchor d nodes) (drawAll anchor { d with limit := limit } nodes) := by
  induction nodes with
  | nil => exact .refl _
  | cons node rest ihr =>
    have hnode := ih node (by simp) hle
    have hrest := ihr fun other ho => ih other (by simp [ho])
    rw [drawAll, drawAll]
    exact hnode.bind fun _ => hrest.bind fun _ => .refl _

/-- What is drawn under one limit is drawn in the same way under a greater one. -/
theorem extends_draw (node : Node) (hle : d.limit ≤ limit) :
    Extends (draw anchor d node) (draw anchor { d with limit := limit } node) := by
  induction node generalizing d with
  | rule name definition ih =>
    rw [draw, draw]
    exact .descend hle fun _ _ => .of_error _
  | literal casing text base =>
    rw [draw, draw]
    exact .descend hle fun here _ => (extends_terminalText here limit _ text base).map _
  | range first last base =>
    rw [draw, draw]
    exact .descend hle fun _ _ => .refl _
  | prose text =>
    rw [draw, draw]
    exact .descend hle fun _ _ => .refl _
  | reference name =>
    rw [draw, draw]
    exact .descend hle fun _ _ => .refl _
  | concatenation elements ih =>
    rw [draw, draw]
    exact .descend hle fun _ hhere => (extends_drawAll ih hhere).map _
  | alternation choices ih =>
    rw [draw, draw]
    exact .descend hle fun _ hhere => (extends_drawAll ih hhere).map _
  | group inner ih =>
    rw [draw, draw]
    exact .descend hle fun _ hhere => (ih hhere).map _
  | repetition element bounds ih ihu =>
    rw [draw_repetition, draw_repetition]
    exact .descend hle fun _ hhere => (ihu hhere).map _

/-! ## Offending nodes -/

/-- The nodes that have no meaning below the top of a rule, with what is wrong with them. -/
inductive Misplaced : Node → String → Prop
  /-- A rule. -/
  | nested (name : String) (definition : Node) :
      Misplaced (.rule name definition) Descent.nestedRule
  /-- A literal by the codes of its characters that has no characters. -/
  | codeless (casing : Casing) (base : Base) :
      Misplaced (.literal casing "" (some base)) Descent.noValue

/-- Whether a node at a depth is neither too deep nor without meaning. -/
def Sound (limit : Nat) (visit : Nat × Node) : Prop :=
  visit.1 ≤ limit ∧ ∀ reason, ¬ Misplaced visit.2 reason

/-- The error for a node at a depth.  A node that is too deep is not looked at. -/
inductive Offends (rule : String) (limit : Nat) : Nat × Node → RenderError → Prop
  /-- The node is too deep. -/
  | tooDeep {depth : Nat} {node : Node} : limit < depth →
      Offends rule limit (depth, node) (.tooDeep rule limit)
  /-- The node has no meaning where it stands. -/
  | misplaced {depth : Nat} {node : Node} {reason : String} : depth ≤ limit →
      Misplaced node reason → Offends rule limit (depth, node) (.malformed rule node.kind reason)

lemma fault_eq_some_iff {node : Node} {rule : String} {error : RenderError} :
    node.fault rule = some error ↔
      ∃ reason, Misplaced node reason ∧ error = .malformed rule node.kind reason := by
  constructor
  · intro h
    unfold fault at h
    split at h
    · exact ⟨_, .nested _ _, (Option.some.inj h).symm⟩
    · split at h
      · next hempty =>
        obtain rfl := String.isEmpty_iff.1 hempty
        exact ⟨_, .codeless _ _, (Option.some.inj h).symm⟩
      · simp at h
    · simp at h
  · rintro ⟨reason, hnode, rfl⟩
    cases hnode <;> rfl

lemma faultAt_eq_some_iff {visit : Nat × Node} {rule : String} {limit : Nat}
    {error : RenderError} :
    faultAt rule limit visit = some error ↔ Offends rule limit visit error := by
  obtain ⟨depth, node⟩ := visit
  rw [faultAt]
  constructor
  · intro h
    split at h
    · next hdeep =>
      obtain rfl := Option.some.inj h
      exact .tooDeep hdeep
    · next hdeep =>
      obtain ⟨reason, hnode, rfl⟩ := fault_eq_some_iff.1 h
      exact .misplaced (Nat.not_lt.1 hdeep) hnode
  · intro h
    cases h with
    | tooDeep hdeep => exact if_pos hdeep
    | misplaced hdepth hnode =>
      rw [if_neg (Nat.not_lt.2 hdepth)]
      exact fault_eq_some_iff.2 ⟨_, hnode, rfl⟩

lemma faultAt_eq_none_iff {visit : Nat × Node} {rule : String} {limit : Nat} :
    faultAt rule limit visit = none ↔ Sound limit visit := by
  rw [Option.eq_none_iff_forall_ne_some]
  constructor
  · intro h
    have hdepth : visit.1 ≤ limit := by
      by_contra hdeep
      exact h _ (faultAt_eq_some_iff.2 (.tooDeep (Nat.not_le.1 hdeep)))
    exact ⟨hdepth, fun reason hnode => h _ (faultAt_eq_some_iff.2 (.misplaced hdepth hnode))⟩
  · rintro ⟨hdepth, hmeaning⟩ error herror
    cases faultAt_eq_some_iff.1 herror with
    | tooDeep hdeep => exact Nat.not_lt.2 hdepth hdeep
    | misplaced _ hnode => exact hmeaning _ hnode

end Node

/-! ## Rules -/

/-- The outcome of a compilation under each greatest depth is decided by the visits: it succeeds if
all of them are sound, fails with the error for the first one that is not, and does not change when
the greatest depth grows. -/
structure DecidedBy {α : Type} (compile : Nat → Except RenderError α) (rule : String)
    (visits : List (Nat × Node)) : Prop where
  /-- It succeeds if nothing offends. -/
  succeeds (limit : Nat) :
    (∃ a, compile limit = .ok a) ↔ ∀ visit ∈ visits, Node.Sound limit visit
  /-- It fails with the error for the first offender. -/
  fails (limit : Nat) (error : RenderError) : compile limit = .error error ↔
    ∃ before visit after, visits = before ++ visit :: after ∧
      (∀ earlier ∈ before, Node.Sound limit earlier) ∧ Node.Offends rule limit visit error
  /-- A greater depth leaves the outcome as it is. -/
  grows (limit limit' : Nat) (a : α) : limit ≤ limit' → compile limit = .ok a →
    compile limit' = .ok a

/-- A compilation that fails with the first fault among its visits is decided by them. -/
lemma DecidedBy.of_failure {α : Type} {compile : Nat → Except RenderError α} {rule : String}
    {visits : List (Nat × Node)}
    (hfailure : ∀ limit, failure (compile limit) = visits.findSome? (Node.faultAt rule limit))
    (hextends : ∀ {limit limit'}, limit ≤ limit' → Extends (compile limit) (compile limit')) :
    DecidedBy compile rule visits where
  succeeds limit := by
    rw [← failure_eq_none_iff, hfailure, List.findSome?_eq_none_iff]
    simp only [Node.faultAt_eq_none_iff]
  fails limit error := by
    rw [← failure_eq_some_iff, hfailure, List.findSome?_eq_some_iff]
    simp only [Node.faultAt_eq_none_iff, Node.faultAt_eq_some_iff]
    constructor
    · rintro ⟨before, visit, after, hvisits, herror, hbefore⟩
      exact ⟨before, visit, after, hvisits, hbefore, herror⟩
    · rintro ⟨before, visit, after, hvisits, hbefore, herror⟩
      exact ⟨before, visit, after, hvisits, herror, hbefore⟩
  grows limit limit' a hle := hextends hle a

/-- **When writing and drawing succeed.**  A listing of a rule is decided by the visits that pass
over the groups directly below `{0,1}`, and a diagram by those that pass over all groups directly
below a repetition, where the definition has depth one: it succeeds if no visited node is deeper
than the limit, a rule, or a code without characters.  Otherwise the first such node decides: if it
is too deep, the error is that the rule is, and else it tells the kind of the node and what is
wrong with it.  What succeeds under one limit has the same outcome under every greater one.  And
wherever one of the compilers has succeeded with a node, or with nodes side by side, the depth that
it leaves for the nodes after them is the one that it has found. -/
theorem rule_decided (listing : Listing) (drawing : Drawing) (name : String) (definition : Node) :
    DecidedBy (fun limit => { listing with maxDepth := limit }.rule (.rule name definition)) name
        (definition.listed 0) ∧
      DecidedBy (fun limit => { drawing with maxDepth := limit }.rule (.rule name definition)) name
        (definition.drawn 0) ∧
      (∀ markup anchor node, (Node.write markup anchor node).LeavesDepth) ∧
      (∀ markup anchor nodes, (Node.writeAll markup anchor nodes).LeavesDepth) ∧
      (∀ anchor node, (Node.lay anchor node).LeavesDepth) ∧
      ∀ anchor nodes, (Node.layAll anchor nodes).LeavesDepth := by
  refine ⟨?_, ?_, ?_, ?_, ?_, ?_⟩
  · refine .of_failure (fun limit => Listing.rule_failure _ _) fun hle => ?_
    rw [Listing.rule_eq, Listing.rule_eq]
    exact (Node.extends_list definition hle).bind fun _ => .refl _
  · refine .of_failure (fun limit => Drawing.rule_failure _ name definition) fun hle => ?_
    rw [Drawing.rule_eq, Drawing.rule_eq]
    exact (Node.extends_draw definition hle).map _
  · intro markup anchor node
    exact (Node.write_restores markup anchor node).leavesDepth
  · intro markup anchor nodes
    exact (Node.writeAll_restores fun node _ => Node.write_restores markup anchor node).leavesDepth
  · intro anchor node
    exact (Node.lay_restores anchor node).leavesDepth
  · intro anchor nodes
    exact (Node.layAll_restores fun node _ => Node.lay_restores anchor node).leavesDepth

end Abnf
