import Abnf.Proofs.Subtrees

/-!
# How writing and drawing a rule fail

A listing and a diagram with the same greatest depth meet the nodes of a rule in the same order, but
the diagram passes over more groups and is therefore never deeper.  So the diagram fails only where
the listing does, with the same error unless the listing found the rule too deep first
(`rule_failures`).  Where no group is repeated but in brackets, the two pass over the same groups
and fail alike.
-/

namespace Abnf

namespace Node

/-- What is wrong with a node wherever it stands is that it has no meaning there. -/
lemma exists_of_fault {node : Node} {name : String} {e : RenderError}
    (h : node.fault name = some e) : ∃ kind reason, e = .malformed name kind reason := by
  unfold fault at h
  split at h
  · exact ⟨_, _, (Option.some.inj h).symm⟩
  · split at h
    · exact ⟨_, _, (Option.some.inj h).symm⟩
    · simp at h
  · simp at h

/-- A node is too deep, or it has no meaning where it stands. -/
lemma faultAt_cases {visit : Nat × Node} {name : String} {limit : Nat} {e : RenderError}
    (h : faultAt name limit visit = some e) :
    limit < visit.1 ∧ e = .tooDeep name limit ∨ ∃ kind reason, e = .malformed name kind reason := by
  rw [faultAt] at h
  split at h
  · next hdeep => exact .inl ⟨hdeep, (Option.some.inj h).symm⟩
  · exact .inr (exists_of_fault h)

/-- A fault that concerns the depth names the rule and the greatest depth, and a node lies
deeper. -/
lemma exists_of_tooDeep {visits : List (Nat × Node)} {name rule : String} {limit most : Nat}
    (h : visits.findSome? (faultAt name limit) = some (.tooDeep rule most)) :
    (rule = name ∧ most = limit) ∧ ∃ visit ∈ visits, limit < visit.1 := by
  obtain ⟨visit, hmem, hvisit⟩ := List.exists_of_findSome?_eq_some h
  rcases faultAt_cases hvisit with ⟨hdeep, heq⟩ | ⟨kind, reason, heq⟩
  · exact ⟨RenderError.tooDeep.inj heq, visit, hmem, hdeep⟩
  · simp at heq

/-- What can be wrong with a rule, or with what stands in its place. -/
lemma ruleFault_cases {node : Node} {limit : Nat} {e : RenderError}
    (h : node.ruleFault limit = some e) :
    (∃ name definition, node = .rule name definition ∧ e = .tooDeep name limit ∧
      ∃ visit ∈ definition.listed 0, limit < visit.1) ∨
    ∃ name kind reason, e = .malformed name kind reason := by
  cases node with
  | rule name definition =>
    obtain ⟨visit, hmem, hvisit⟩ := List.exists_of_findSome?_eq_some h
    rcases faultAt_cases hvisit with ⟨hdeep, heq⟩ | hmalformed
    · exact .inl ⟨name, definition, rfl, heq, visit, hmem, hdeep⟩
    · exact .inr ⟨name, hmalformed⟩
  | _ => exact .inr ⟨_, _, _, (Option.some.inj h).symm⟩

end Node

/-- A rule is drawn unless something is wrong with a node that is drawn. -/
lemma Drawing.rule_failure (drawing : Drawing) (name : String) (definition : Node) :
    failure (drawing.rule (.rule name definition)) =
      (definition.drawn 0).findSome? (Node.faultAt name drawing.maxDepth) := by
  rw [Drawing.rule_eq, failure_map, Node.draw_failure]

/-- A rule is written and drawn with the same error, or it is too deep to be written. -/
lemma rule_failure_cases {listing : Listing} {drawing : Drawing}
    (hlimit : drawing.maxDepth = listing.maxDepth) (node : Node) :
    failure (listing.rule node) = failure (drawing.rule node) ∨
      ∃ name definition, node = .rule name definition ∧
        failure (listing.rule node) = some (.tooDeep name listing.maxDepth) := by
  cases node with
  | rule name definition =>
    rw [Listing.rule_failure, Drawing.rule_failure, hlimit]
    rcases (definition.fewer_drawn_listed (Nat.le_refl 0)).first_fault name listing.maxDepth with
      heq | hdeep
    · exact .inl heq
    · exact .inr ⟨name, definition, rfl, hdeep⟩
  | _ =>
    refine .inl ?_
    rw [Listing.rule, Drawing.rule, hlimit]
    · rfl
    all_goals simp

/-- **Writing and drawing fail consistently.**  With one greatest depth for both, a rule that is
written is drawn; a node that has no meaning where it stands is reported by the diagram if it is by
the listing; and a rule that is too deep to be drawn is too deep to be written.  Where no group is
directly repeated but with the bounds of an optional element, they fail with exactly the same
errors. -/
theorem rule_failures {listing : Listing} {drawing : Drawing}
    (hlimit : drawing.maxDepth = listing.maxDepth) (node : Node) :
    (∀ text, listing.rule node = .ok text → ∃ diagram, drawing.rule node = .ok diagram) ∧
    (∀ rule kind reason, listing.rule node = .error (.malformed rule kind reason) →
      drawing.rule node = .error (.malformed rule kind reason)) ∧
    (∀ rule limit, drawing.rule node = .error (.tooDeep rule limit) →
      listing.rule node = .error (.tooDeep rule limit)) ∧
    ((∀ inner bounds, .repetition (.group inner) bounds ∈ node.subtrees → bounds = ⟨0, some 1⟩) →
      ∀ error, listing.rule node = .error error ↔ drawing.rule node = .error error) := by
  refine ⟨?_, ?_, ?_, ?_⟩
  · intro text htext
    exact Drawing.rule_of_listing hlimit htext
  · intro rule kind reason hlisting
    rw [← failure_eq_some_iff] at hlisting ⊢
    rcases rule_failure_cases hlimit node with heq | ⟨name, definition, rfl, hdeep⟩
    · rw [← heq, hlisting]
    · simp [hdeep] at hlisting
  · intro rule limit hdrawing
    rw [← failure_eq_some_iff] at hdrawing ⊢
    rcases rule_failure_cases hlimit node with heq | ⟨name, definition, rfl, hdeep⟩
    · rw [heq, hdrawing]
    · rw [Drawing.rule_failure] at hdrawing
      obtain ⟨⟨rfl, rfl⟩, -⟩ := Node.exists_of_tooDeep hdrawing
      rw [hdeep, hlimit]
  · intro hgroups error
    rw [← failure_eq_some_iff, ← failure_eq_some_iff]
    suffices heq : failure (listing.rule node) = failure (drawing.rule node) by rw [heq]
    cases node with
    | rule name definition =>
      -- The only groups that are repeated are those that a listing passes over, too.
      have hagree : Node.AgreeOn Repeat.isOptional (fun _ => true) (.rule name definition) := by
        intro inner bounds hmem
        obtain rfl := hgroups inner bounds hmem
        rfl
      have hmem : definition ∈ (Node.rule name definition).children := by simp [Node.children]
      have hdefinition := hagree.child hmem
      rw [Listing.rule_failure, Drawing.rule_failure, hlimit, Node.ruleFault, Node.listed,
        Node.drawn, Node.visits_congr hdefinition]
    | _ =>
      rcases rule_failure_cases hlimit _ with heq | ⟨name, definition, hrule, -⟩
      · exact heq
      · simp at hrule

/-- Digits by a code without characters, and a rule where none may stand. -/
def emptyCode : Node :=
  .rule "r" (.concatenation
    [.repetition (.group (.literal .sensitive "" (some .hexadecimal))) ⟨0, some 1⟩,
     .rule "s" (.prose "")])

/-- At depth three the code is reported first, and at depth two nothing is deep enough for it. -/
theorem rule_failures_emptyCode :
    (Drawing.mk (.ofNames []) none true 3).rule emptyCode =
        .error (.malformed "r" (.literal .sensitive) Descent.noValue) ∧
      (Listing.mk .none .plain none 2).rule emptyCode = .error (.tooDeep "r" 2) ∧
      ((Listing.mk .none .plain none 3).rule emptyCode =
          .error (.malformed "r" (.literal .sensitive) Descent.noValue) ↔
        (Drawing.mk (.ofNames []) none true 3).rule emptyCode =
          .error (.malformed "r" (.literal .sensitive) Descent.noValue)) := by
  have hthree := @rule_failures (Listing.mk .none .plain none 3)
    (Drawing.mk (.ofNames []) none true 3) rfl emptyCode
  have htwo := @rule_failures (Listing.mk .none .plain none 2)
    (Drawing.mk (.ofNames []) none true 2) rfl emptyCode
  refine ⟨hthree.2.1 _ _ _ rfl, htwo.2.2.1 _ _ rfl, hthree.2.2.2 ?_ _⟩
  intro inner bounds hmem
  simp [emptyCode, Node.subtrees, Node.subtreesAll] at hmem
  exact hmem.2

end Abnf
