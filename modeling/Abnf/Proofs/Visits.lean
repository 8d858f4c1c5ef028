import Abnf.Proofs.Threads

/-!
# Visits of a definition tree

Both compilers go through the nodes of a definition from left to right, each before the nodes below
it, and stop at the first one that is too deep or has no meaning where it stands.  They differ in
the groups they pass over: a diagram passes over every group directly below a repetition, a listing
only over those below `{0,1}`.

`visits` is the order in which nodes are met, with their depths, and `faultAt` what is wrong with a
node at a depth.  The error of either compiler is the first fault among its visits
(`list_failure`, `draw_failure`), whatever the markup and the anchors are.  Since the visits of a
diagram are some of the visits of the listing, and none of them deeper (`fewer_drawn_listed`), a
definition that can be written can be drawn.
-/

namespace Abnf

/-- The error of a computation, if it fails. -/
def failure {α : Type} : Except RenderError α → Option RenderError
  | .error e => some e
  | .ok _ => none

section Failure

variable {α β : Type}

@[simp] lemma ok_bind (a : α) (f : α → Except RenderError β) : (.ok a >>= f) = f a := rfl

@[simp] lemma error_bind (e : RenderError) (f : α → Except RenderError β) :
    (.error e >>= f) = .error e := rfl

@[simp] lemma failure_ok (a : α) : failure (.ok a : Except RenderError α) = none := rfl

@[simp] lemma failure_error (e : RenderError) :
    failure (.error e : Except RenderError α) = some e := rfl

@[simp] lemma failure_map (f : α → β) (x : Except RenderError α) :
    failure (f <$> x) = failure x := by
  cases x <;> rfl

@[simp] lemma failure_bind_ok (x : Except RenderError α) (f : α → β) :
    failure (x >>= fun a => .ok (f a)) = failure x := by
  cases x <;> rfl

lemma failure_bind {x : Except RenderError α} {f : α → Except RenderError β}
    {rest : Option RenderError} (h : ∀ a, failure (f a) = rest) :
    failure (x >>= f) = (failure x).or rest := by
  cases x with
  | error e => rfl
  | ok a => exact h a

lemma failure_eq_none_iff {x : Except RenderError α} : failure x = none ↔ ∃ a, x = .ok a := by
  cases x <;> simp

lemma failure_eq_some_iff {x : Except RenderError α} {e : RenderError} :
    failure x = some e ↔ x = .error e := by
  cases x <;> simp

/-- Computations one after the other fail with the error of the first one that fails. -/
lemma failure_mapM (f : α → Except RenderError β) (as : List α) :
    failure (as.mapM f) = as.findSome? fun a => failure (f a) := by
  induction as with
  | nil => rfl
  | cons a rest ih =>
    have hrest : ∀ b, failure (rest.mapM f >>= fun bs => pure (b :: bs)) =
        rest.findSome? fun a => failure (f a) := by
      intro b
      rw [← ih]
      exact failure_map (fun bs => b :: bs) (rest.mapM f)
    rw [List.mapM_cons, failure_bind hrest, List.findSome?_cons]
    cases failure (f a) <;> rfl

end Failure

namespace Node

mutual

/-- The nodes of a tree whose top is one level below `depth`, with their depths, each before the
nodes below it and from left to right.  A group directly below a repetition for which `skips` holds
is left out, and what stands in it counts as directly below the repetition. -/
def visits (skips : Repeat → Bool) (depth : Nat) (node : Node) : List (Nat × Node) :=
  (depth + 1, node) ::
    match node with
    | .rule _ definition => visits skips (depth + 1) definition
    | .literal _ _ _ | .range _ _ _ | .prose _ | .reference _ => []
    | .concatenation elements => visitsAll skips (depth + 1) elements
    | .alternation choices => visitsAll skips (depth + 1) choices
    | .group inner => visits skips (depth + 1) inner
    | .repetition element bounds =>
      if skips bounds then
        match element with
        | .group inner => visits skips (depth + 1) inner
        | element => visits skips (depth + 1) element
      else visits skips (depth + 1) element

/-- The visits of several trees whose tops are one level below `depth`. -/
def visitsAll (skips : Repeat → Bool) (depth : Nat) : List Node → List (Nat × Node)
  | [] => []
  | node :: rest => visits skips depth node ++ visitsAll skips depth rest

end

/-- A listing passes over the groups directly below `{0,1}`. -/
abbrev listed : Nat → Node → List (Nat × Node) := visits Repeat.isOptional

/-- A diagram passes over all groups directly below a repetition. -/
abbrev drawn : Nat → Node → List (Nat × Node) := visits fun _ => true

/-- What is wrong with a node wherever it stands below the top, if anything is. -/
def fault (rule : String) : Node → Option RenderError
  | .rule _ _ => some (.malformed rule .rule Descent.nestedRule)
  | .literal casing text (some _) =>
    if text.isEmpty then some (.malformed rule (.literal casing) Descent.noValue) else none
  | _ => none

/-- What is wrong with a node at a depth, if anything is.  That it is too deep comes first. -/
def faultAt (rule : String) (limit : Nat) (visit : Nat × Node) : Option RenderError :=
  if limit < visit.1 then some (.tooDeep rule limit) else visit.2.fault rule

/-- The error of a compiler at a node and the nodes below it, when it goes on after `descend` as
`h` says. -/
lemma failure_descend {α : Type} {d : Descent} {f : Descent → Except RenderError α} {node : Node}
    {rest : List (Nat × Node)}
    (h : failure (f { d with depth := d.depth + 1 }) =
      (node.fault d.rule).or (rest.findSome? (faultAt d.rule d.limit))) :
    failure (d.descend >>= f) =
      ((d.depth + 1, node) :: rest).findSome? (faultAt d.rule d.limit) := by
  rw [List.findSome?_cons]
  by_cases hd : d.limit ≤ d.depth
  · have hlt : d.limit < d.depth + 1 := by omega
    simp [Descent.descend, faultAt, hd, hlt, bind, Except.bind]
  · have hlt : ¬ d.limit < d.depth + 1 := by omega
    have hok : d.descend = .ok { d with depth := d.depth + 1 } := by simp [Descent.descend, hd]
    have hbind : d.descend >>= f = f { d with depth := d.depth + 1 } := by rw [hok]; rfl
    rw [hbind, h]
    simp only [faultAt, hlt, if_false]
    cases node.fault d.rule <;> rfl

lemma visits_repetition (skips : Repeat → Bool) (depth : Nat) (element : Node) (bounds : Repeat) :
    visits skips depth (.repetition element bounds) =
      (depth + 1, .repetition element bounds) ::
        visits skips (depth + 1) (if skips bounds then element.unwrapped else element) := by
  cases element <;> cases h : skips bounds <;> simp [visits, h, unwrapped]

lemma mem_visitsAll {skips : Repeat → Bool} {depth : Nat} {nodes : List Node} {visit : Nat × Node}
    (h : visit ∈ visitsAll skips depth nodes) :
    ∃ node ∈ nodes, visit ∈ node.visits skips depth := by
  induction nodes with
  | nil => simp [visitsAll] at h
  | cons node rest ih =>
    rw [visitsAll] at h
    rcases List.mem_append.1 h with hnode | hrest
    · exact ⟨node, by simp, hnode⟩
    · obtain ⟨other, hother, hvisit⟩ := ih hrest
      exact ⟨other, by simp [hother], hvisit⟩

/-! ## The error of a listing -/

lemma failure_literalText (d : Descent) (markup : Markup) (casing : Casing) (text : String)
    (base : Option Base) :
    failure (d.literalText markup casing text base) =
      (literal casing text base).fault d.rule := by
  cases base with
  | none => rfl
  | some b =>
    by_cases h : text.isEmpty = true <;>
      simp [Descent.literalText, Base.encodeText, fault, h, Descent.malformed]

lemma failure_listAll {markup : Markup} {anchor : String → String} {nodes : List Node}
    (ih : ∀ node ∈ nodes, ∀ d, failure (list markup anchor d node) =
      (node.listed d.depth).findSome? (faultAt d.rule d.limit)) (d : Descent) :
    failure (listAll markup anchor d nodes) =
      (visitsAll Repeat.isOptional d.depth nodes).findSome? (faultAt d.rule d.limit) := by
  induction nodes with
  | nil => rfl
  | cons node rest ihr =>
    have hrest := ihr fun other ho => ih other (by simp [ho])
    have hnode := ih node (by simp) d
    have hbind : ∀ text : String, failure (listAll markup anchor d rest >>= fun texts =>
        .ok (text :: texts)) = failure (listAll markup anchor d rest) := fun text =>
      failure_bind_ok _ _
    rw [visitsAll, List.findSome?_append, listAll, failure_bind hbind, hnode, hrest]

/-- A listing fails with the first fault among its visits. -/
theorem list_failure (markup : Markup) (anchor : String → String) (d : Descent) (node : Node) :
    failure (node.list markup anchor d) =
      (node.listed d.depth).findSome? (faultAt d.rule d.limit) := by
  induction node generalizing d with
  | rule name definition ih =>
    rw [list, listed, visits]
    exact failure_descend rfl
  | literal casing text base =>
    rw [list, listed, visits]
    refine failure_descend ?_
    rw [failure_map, failure_literalText]
    simp
  | range first last base =>
    rw [list, listed, visits]
    exact failure_descend rfl
  | prose text =>
    rw [list, listed, visits]
    exact failure_descend rfl
  | reference name =>
    rw [list, listed, visits]
    exact failure_descend rfl
  | concatenation elements ih =>
    rw [list, listed, visits]
    refine failure_descend ?_
    rw [failure_bind_ok]
    exact failure_listAll ih { d with depth := d.depth + 1 }
  | alternation choices ih =>
    rw [list, listed, visits]
    refine failure_descend ?_
    rw [failure_bind_ok]
    exact failure_listAll ih { d with depth := d.depth + 1 }
  | group inner ih =>
    rw [list, listed, visits]
    refine failure_descend ?_
    rw [failure_bind_ok]
    exact ih { d with depth := d.depth + 1 }
  | repetition element bounds ih ihu =>
    rw [list_repetition, listed, visits_repetition]
    refine failure_descend ?_
    by_cases h : bounds.isOptional = true
    · rw [if_pos h, if_pos h, failure_bind_ok]
      exact ihu { d with depth := d.depth + 1 }
    · rw [if_neg h, if_neg h, failure_bind_ok]
      exact ih { d with depth := d.depth + 1 }

/-! ## The error of a diagram -/

lemma failure_terminalText (d : Descent) (casing : Casing) (text : String) (base : Option Base) :
    failure (d.terminalText (.literal casing) text base) =
      (literal casing text base).fault d.rule := by
  cases base with
  | none => rfl
  | some b =>
    have hempty : text.isEmpty = text.toList.isEmpty := by
      rw [Bool.eq_iff_iff, String.isEmpty_iff, List.isEmpty_iff, String.toList_eq_nil_iff]
    cases h : text.toList with
    | nil => simp [Descent.terminalText, Base.encodeFirst, fault, hempty, h, Descent.malformed]
    | cons c cs => simp [Descent.terminalText, Base.encodeFirst, fault, hempty, h]

lemma failure_drawAll {anchor : String → String} {nodes : List Node}
    (ih : ∀ node ∈ nodes, ∀ d, failure (draw anchor d node) =
      (node.drawn d.depth).findSome? (faultAt d.rule d.limit)) (d : Descent) :
    failure (drawAll anchor d nodes) =
      (visitsAll (fun _ => true) d.depth nodes).findSome? (faultAt d.rule d.limit) := by
  induction nodes with
  | nil => rfl
  | cons node rest ihr =>
    have hrest := ihr fun other ho => ih other (by simp [ho])
    have hnode := ih node (by simp) d
    have hbind : ∀ diagram : Diagram, failure (drawAll anchor d rest >>= fun diagrams =>
        .ok (diagram :: diagrams)) = failure (drawAll anchor d rest) := fun diagram =>
      failure_bind_ok _ _
    rw [visitsAll, List.findSome?_append, drawAll, failure_bind hbind, hnode, hrest]

/-- A diagram fails with the first fault among its visits. -/
theorem draw_failure (anchor : String → String) (d : Descent) (node : Node) :
    failure (node.draw anchor d) = (node.drawn d.depth).findSome? (faultAt d.rule d.limit) := by
  induction node generalizing d with
  | rule name definition ih =>
    rw [draw, drawn, visits]
    exact failure_descend rfl
  | literal casing text base =>
    rw [draw, drawn, visits]
    refine failure_descend ?_
    rw [failure_map, failure_terminalText]
    simp
  | range first last base =>
    rw [draw, drawn, visits]
    exact failure_descend rfl
  | prose text =>
    rw [draw, drawn, visits]
    exact failure_descend rfl
  | reference name =>
    rw [draw, drawn, visits]
    exact failure_descend rfl
  | concatenation elements ih =>
    rw [draw, drawn, visits]
    refine failure_descend ?_
    rw [failure_map]
    exact failure_drawAll ih { d with depth := d.depth + 1 }
  | alternation choices ih =>
    rw [draw, drawn, visits]
    refine failure_descend ?_
    rw [failure_map]
    exact failure_drawAll ih { d with depth := d.depth + 1 }
  | group inner ih =>
    rw [draw, drawn, visits]
    refine failure_descend ?_
    rw [failure_map]
    exact ih { d with depth := d.depth + 1 }
  | repetition element bounds ih ihu =>
    rw [draw_repetition, drawn, visits_repetition]
    refine failure_descend ?_
    rw [failure_map]
    exact ihu { d with depth := d.depth + 1 }

/-! ## Drawing what can be written -/

/-- The first visits are the second ones without some groups, and none of them is deeper. -/
inductive Fewer : List (Nat × Node) → List (Nat × Node) → Prop
  /-- No visits on either side. -/
  | nil : Fewer [] []
  /-- A node that is visited on both sides. -/
  | visit {depth depth' : Nat} {node : Node} {few all : List (Nat × Node)} :
      depth ≤ depth' → Fewer few all → Fewer ((depth, node) :: few) ((depth', node) :: all)
  /-- A group that is passed over. -/
  | pass {depth : Nat} {inner : Node} {few all : List (Nat × Node)} :
      Fewer few all → Fewer few ((depth, .group inner) :: all)

namespace Fewer

lemma append {few all few' all' : List (Nat × Node)} (h : Fewer few all)
    (h' : Fewer few' all') : Fewer (few ++ few') (all ++ all') := by
  induction h with
  | nil => exact h'
  | visit hle _ ih => exact ih.visit hle
  | pass _ ih => exact ih.pass

/-- Either both begin with the same fault, or the second ones begin with a node that is too deep. -/
lemma first_fault {few all : List (Nat × Node)} (h : Fewer few all) (rule : String)
    (limit : Nat) :
    all.findSome? (faultAt rule limit) = few.findSome? (faultAt rule limit) ∨
      all.findSome? (faultAt rule limit) = some (.tooDeep rule limit) := by
  induction h with
  | nil => exact .inl rfl
  | @visit depth depth' node few all hle _ ih =>
    rw [List.findSome?_cons, List.findSome?_cons]
    by_cases hdeep : limit < depth'
    · exact .inr (by simp [faultAt, hdeep])
    · have hdeep' : ¬ limit < depth := by omega
      simp only [faultAt, hdeep, hdeep', if_false]
      cases node.fault rule with
      | some error => exact .inl rfl
      | none => exact ih
  | @pass depth inner few all _ ih =>
    rw [List.findSome?_cons]
    by_cases hdeep : limit < depth
    · exact .inr (by simp [faultAt, hdeep])
    · simpa [faultAt, hdeep, fault] using ih

/-- Where all visits are without fault, fewer visits are. -/
lemma without_fault {few all : List (Nat × Node)} (h : Fewer few all) {rule : String}
    {limit : Nat} (hall : all.findSome? (faultAt rule limit) = none) :
    few.findSome? (faultAt rule limit) = none := by
  rcases h.first_fault rule limit with heq | hdeep
  · exact heq.symm.trans hall
  · simp [hall] at hdeep

end Fewer

lemma fewer_visitsAll {nodes : List Node} {depth depth' : Nat} (hle : depth ≤ depth')
    (ih : ∀ node ∈ nodes, ∀ {depth depth'}, depth ≤ depth' →
      Fewer (node.drawn depth) (node.listed depth')) :
    Fewer (visitsAll (fun _ => true) depth nodes) (visitsAll Repeat.isOptional depth' nodes) := by
  induction nodes with
  | nil => exact .nil
  | cons node rest ihr =>
    have hnode := ih node (by simp) hle
    have hrest := ihr fun other ho => ih other (by simp [ho])
    exact hnode.append hrest

/-- A diagram visits what a listing visits, but for some groups, and nothing deeper. -/
theorem fewer_drawn_listed (node : Node) {depth depth' : Nat} (hle : depth ≤ depth') :
    Fewer (node.drawn depth) (node.listed depth') := by
  induction node generalizing depth depth' with
  | rule name definition ih => exact .visit (Nat.succ_le_succ hle) (ih (Nat.succ_le_succ hle))
  | literal casing text base => exact .visit (Nat.succ_le_succ hle) .nil
  | range first last base => exact .visit (Nat.succ_le_succ hle) .nil
  | prose text => exact .visit (Nat.succ_le_succ hle) .nil
  | reference name => exact .visit (Nat.succ_le_succ hle) .nil
  | concatenation elements ih =>
    exact .visit (Nat.succ_le_succ hle) (fewer_visitsAll (Nat.succ_le_succ hle) ih)
  | alternation choices ih =>
    exact .visit (Nat.succ_le_succ hle) (fewer_visitsAll (Nat.succ_le_succ hle) ih)
  | group inner ih => exact .visit (Nat.succ_le_succ hle) (ih (Nat.succ_le_succ hle))
  | repetition element bounds ih ihu =>
    rw [drawn, listed, visits_repetition, visits_repetition]
    refine .visit (Nat.succ_le_succ hle) ?_
    by_cases h : bounds.isOptional = true
    · rw [if_pos h]
      exact ihu (Nat.succ_le_succ hle)
    · rw [if_neg h, if_pos rfl]
      cases hg : element.isGroup with
      | false =>
        rw [unwrapped_eq_self hg] at ihu ⊢
        exact ihu (Nat.succ_le_succ hle)
      | true =>
        -- The listing visits the group and what stands in it; the diagram only the latter.
        obtain ⟨inner, rfl⟩ := exists_eq_group hg
        have hle2 : depth + 1 ≤ depth' + 1 + 1 := by omega
        exact .pass (ihu hle2)

/-- What can be written at some depth can be drawn there. -/
theorem draw_of_list {markup : Markup} {anchor : String → String} (anchor' : String → String)
    {d : Descent} {node : Node} {text : String} (h : node.list markup anchor d = .ok text) :
    ∃ diagram, node.draw anchor' d = .ok diagram := by
  have hlist : failure (node.list markup anchor d) = none := failure_eq_none_iff.2 ⟨text, h⟩
  rw [list_failure] at hlist
  rw [← failure_eq_none_iff, draw_failure]
  exact (fewer_drawn_listed node (Nat.le_refl d.depth)).without_fault hlist

end Node

/-! ## The error of a rule -/

/-- What is wrong with a rule, or with what stands in its place, if anything is. -/
def Node.ruleFault (limit : Nat) : Node → Option RenderError
  | .rule name definition => (definition.listed 0).findSome? (Node.faultAt name limit)
  | node => some (Descent.expectedRule limit node)

/-- A rule is written unless something is wrong with it. -/
lemma Listing.rule_failure (listing : Listing) (node : Node) :
    failure (listing.rule node) = node.ruleFault listing.maxDepth := by
  cases node with
  | rule name definition =>
    rw [Listing.rule_eq, failure_bind_ok, Node.list_failure]
    rfl
  | _ => rfl

/-- What is written can be drawn, with whatever anchors and labels. -/
lemma Drawing.rule_of_listing {listing : Listing} {drawing : Drawing} {node : Node} {text : String}
    (hdepth : drawing.maxDepth = listing.maxDepth) (h : listing.rule node = .ok text) :
    ∃ diagram, drawing.rule node = .ok diagram := by
  cases node with
  | rule name definition =>
    cases hlist : definition.list listing.markup (anchorIn listing.grammar)
        { rule := name, limit := listing.maxDepth } with
    | error e => simp [Listing.rule_eq, hlist, bind, Except.bind] at h
    | ok body =>
      obtain ⟨diagram, hdraw⟩ := Node.draw_of_list (anchorIn drawing.grammar) hlist
      refine ⟨drawing.whole name diagram, ?_⟩
      rw [Drawing.rule_eq, hdepth, hdraw]
      rfl
  | _ => simp [Listing.rule] at h

end Abnf
