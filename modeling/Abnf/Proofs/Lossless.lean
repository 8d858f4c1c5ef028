import Abnf.Proofs.Codes
import Abnf.Proofs.References
import Abnf.Proofs.Shape
import Abnf.Proofs.Verdicts

/-!
# HTML listings are lossless

The HTML listing of a rule determines the rule, whatever the shape of its definition is, but for one
thing: brackets do not show whether their element stands in a group (`html_eq_iff`).  The opening
tag of a node says of which kind it is, a text ends where the next tag begins, and the nodes below
are read off one after the other, so that the listing of a node and whatever follows it can be cut
in one way only (`form_eq_of_html`).
-/

namespace Abnf

/-! ## Trees that only brackets tell apart -/

/-- Trees that are the same up to groups directly inside brackets. -/
inductive SameBrackets : Node → Node → Prop
  /-- A group that holds no group may stand directly inside brackets or be left out. -/
  | optional {inner : Node} : inner.isGroup = false →
      SameBrackets (.repetition (.group inner) ⟨0, some 1⟩) (.repetition inner ⟨0, some 1⟩)
  /-- Every tree is the same as itself. -/
  | refl (node : Node) : SameBrackets node node
  /-- The relation goes both ways. -/
  | symm {node other : Node} : SameBrackets node other → SameBrackets other node
  /-- The relation is transitive. -/
  | trans {node other third : Node} : SameBrackets node other → SameBrackets other third →
      SameBrackets node third
  /-- Below a rule. -/
  | rule (name : String) {definition other : Node} : SameBrackets definition other →
      SameBrackets (.rule name definition) (.rule name other)
  /-- At some place of a concatenation. -/
  | concatenation (before after : List Node) {element other : Node} : SameBrackets element other →
      SameBrackets (.concatenation (before ++ element :: after))
        (.concatenation (before ++ other :: after))
  /-- At some place of an alternation. -/
  | alternation (before after : List Node) {choice other : Node} : SameBrackets choice other →
      SameBrackets (.alternation (before ++ choice :: after))
        (.alternation (before ++ other :: after))
  /-- Inside a group. -/
  | group {inner other : Node} : SameBrackets inner other →
      SameBrackets (.group inner) (.group other)
  /-- Below a repetition. -/
  | repetition (bounds : Repeat) {element other : Node} : SameBrackets element other →
      SameBrackets (.repetition element bounds) (.repetition other bounds)

namespace SameBrackets

/-- The trees, where those that only brackets tell apart are taken for one. -/
def setoid : Setoid Node := ⟨SameBrackets, ⟨refl, symm, trans⟩⟩

end SameBrackets

namespace Node

/-- A tree up to groups directly inside brackets. -/
def form (node : Node) : Quotient SameBrackets.setoid := Quotient.mk _ node

lemma form_eq_iff {node other : Node} : node.form = other.form ↔ SameBrackets node other :=
  ⟨Quotient.exact, Quotient.sound (s := SameBrackets.setoid)⟩

end Node

namespace SameBrackets

/-- In brackets a group may be added around the element, if there is none. -/
lemma wrap (element : Node) :
    SameBrackets (.repetition element ⟨0, some 1⟩)
      (.repetition (.group element.unwrapped) ⟨0, some 1⟩) := by
  cases hgroup : element.isGroup with
  | true =>
    obtain ⟨inner, rfl⟩ := Node.exists_eq_group hgroup
    exact .refl _
  | false =>
    rw [Node.unwrapped_eq_self hgroup]
    exact (SameBrackets.optional hgroup).symm

/-- In brackets only what stands in the group matters. -/
lemma of_unwrapped {element other : Node} (h : SameBrackets element.unwrapped other.unwrapped) :
    SameBrackets (.repetition element ⟨0, some 1⟩) (.repetition other ⟨0, some 1⟩) :=
  ((wrap element).trans (h.group.repetition _)).trans (wrap other).symm

/-- Trees that are the same everywhere in a list are the same as lists. -/
lemma of_forms {make : List Node → Node}
    (hmake : ∀ (before after : List Node) {node other : Node}, SameBrackets node other →
      SameBrackets (make (before ++ node :: after)) (make (before ++ other :: after)))
    {nodes others : List Node} (h : nodes.map Node.form = others.map Node.form) :
    SameBrackets (make nodes) (make others) := by
  have hall : List.Forall₂ SameBrackets nodes others := by
    rw [← List.forall₂_eq_eq_eq, List.forall₂_map_left_iff, List.forall₂_map_right_iff] at h
    exact h.imp fun _ _ => Node.form_eq_iff.1
  exact Node.related_of_forall₂ refl trans hmake hall []

variable (anchor : String → String)

/-- Trees that only brackets tell apart are written with the same tokens, and so are their
elements without their groups. -/
lemma tokens_eq {node other : Node} (h : SameBrackets node other) :
    node.tokens anchor = other.tokens anchor ∧
      node.unwrapped.tokens anchor = other.unwrapped.tokens anchor := by
  have hbounds : (Repeat.mk 0 (some 1)).isOptional = true := rfl
  induction h with
  | @optional inner hgroup =>
    have htokens : Node.tokens anchor (.repetition (.group inner) ⟨0, some 1⟩) =
        Node.tokens anchor (.repetition inner ⟨0, some 1⟩) := by
      rw [Node.tokens_repetition, Node.tokens_repetition, if_pos hbounds, if_pos hbounds,
        Node.unwrapped_group, Node.unwrapped_eq_self hgroup]
    exact ⟨htokens, htokens⟩
  | refl => exact ⟨rfl, rfl⟩
  | symm _ ih => exact ⟨ih.1.symm, ih.2.symm⟩
  | trans _ _ ih ih' => exact ⟨ih.1.trans ih'.1, ih.2.trans ih'.2⟩
  | rule name _ _ => exact ⟨rfl, rfl⟩
  | @concatenation before after element other _ ih =>
    have htokens : Node.tokens anchor (.concatenation (before ++ element :: after)) =
        Node.tokens anchor (.concatenation (before ++ other :: after)) := by
      simp [Node.tokens, Node.tokensAll_eq_map, ih.1]
    exact ⟨htokens, htokens⟩
  | @alternation before after choice other _ ih =>
    have htokens : Node.tokens anchor (.alternation (before ++ choice :: after)) =
        Node.tokens anchor (.alternation (before ++ other :: after)) := by
      simp [Node.tokens, Node.tokensAll_eq_map, ih.1]
    exact ⟨htokens, htokens⟩
  | group _ ih => exact ⟨by rw [Node.tokens, Node.tokens, ih.1], ih.1⟩
  | @repetition bounds element other _ ih =>
    have htokens : Node.tokens anchor (.repetition element bounds) =
        Node.tokens anchor (.repetition other bounds) := by
      rw [Node.tokens_repetition, Node.tokens_repetition, ih.1, ih.2]
    exact ⟨htokens, htokens⟩

end SameBrackets

/-! ## Where tokens end -/

namespace Token

/-- A text ends where the next tag begins. -/
lemma html_text_inj {content other : String} {r s : List Char} (hr : Stops (· != '<') r)
    (hs : Stops (· != '<') s) (h : (text content).html ++ r = (text other).html ++ s) :
    content = other ∧ r = s := by
  have hne : ∀ content : String, ∀ c ∈ (text content).html, (c != '<') = true :=
    fun _ c hc => bne_iff_ne.2 (Text.mem_escapeHtml hc).1
  obtain ⟨hcontent, hrest⟩ := run_inj (hne content) (hne other) hr hs h
  exact ⟨Text.escapeHtml_injective (String.toList_inj.1 hcontent), hrest⟩

lemma stops_closing (element : Element) (rest : List Char) :
    Stops (· != '<') ((closing element).html ++ rest) := by
  cases element <;> exact stops_cons.2 rfl

lemma head?_tagTail (element : Element) (value : String) (rest : List Char) :
    (element.tagTail value ++ rest).head? = element.start.toList.tail.head? := by
  have hne : element.start.toList.tail ≠ [] := by cases element <;> decide
  rw [Element.tagTail, List.append_assoc, List.head?_append_of_ne_nil _ hne]

/-- Opening tags of different elements begin differently. -/
lemma element_eq_of_opening {element element' : Element} {value value' : String} {r s : List Char}
    (h : (opening element value).html ++ r = (opening element' value').html ++ s) :
    element = element' := by
  rw [html_opening, html_opening, List.cons_append, List.cons_append] at h
  have hletter := congrArg List.head? (List.cons.inj h).2
  rw [head?_tagTail, head?_tagTail] at hletter
  cases element <;> cases element' <;> first | rfl | exact absurd hletter (by decide)

/-- An opening tag says which element it opens, and with which value. -/
lemma html_opening_inj {element element' : Element} {value value' : String} {r s : List Char}
    (h : (opening element value).html ++ r = (opening element' value').html ++ s) :
    element = element' ∧ value = value' ∧ r = s := by
  obtain rfl := element_eq_of_opening h
  have hquote : ∀ value, ∀ c ∈ (Text.escapeAttribute value).toList,
      (c != element.quote) = true := by
    intro value c hc
    obtain ⟨-, -, hdouble, hsingle⟩ := Text.mem_escapeAttribute hc
    cases element <;> exact bne_iff_ne.2 (by first | exact hdouble | exact hsingle)
  have hstop : ∀ rest, Stops (· != element.quote) ([element.quote, '>'] ++ rest) := fun rest =>
    stops_cons.2 (by simp)
  simp only [Token.html, escaped, chars, List.append_assoc] at h
  obtain ⟨hvalue, hrest⟩ := run_inj (hquote value) (hquote value') (hstop r) (hstop s)
    (List.append_cancel_left h)
  exact ⟨rfl, Text.escapeAttribute_injective (String.toList_inj.1 hvalue),
    List.append_cancel_left hrest⟩

/-- An opening tag is no closing tag. -/
lemma opening_ne_closing {element element' : Element} {value : String} {r s : List Char} :
    (opening element value).html ++ r ≠ (closing element').html ++ s := by
  intro h
  have hslash : ((closing element').html ++ s).tail.head? = some '/' := by
    cases element' <;> rfl
  rw [← h, html_opening, List.cons_append, List.tail_cons, head?_tagTail] at hslash
  cases element <;> exact absurd hslash (by decide)

end Token

/-! ## Where nodes end -/

/-- Different kinds have different classes. -/
lemma Kind.styleClass_injective : Function.Injective styleClass := by
  intro kind other h
  have hall : ∀ kind ∈ all, ∀ other ∈ all, kind.styleClass = other.styleClass → kind = other := by
    decide
  have hmem : ∀ kind, kind ∈ all := fun kind => by
    cases kind with
    | literal casing => cases casing <;> decide
    | _ => decide
  exact hall kind (hmem kind) other (hmem other) h

/-- What stands in front of a repeated element: a bracket or the bounds. -/
def Repeat.mark (r : Repeat) : String := if r.isOptional then "[" else r.star

/-- Different bounds have different marks. -/
lemma Repeat.mark_injective : Function.Injective mark := by
  have hbracket : ∀ r : Repeat, "[" ≠ r.star := by
    intro r h
    have hmem : '[' ∈ r.star.toList := by simp [← h]
    exact absurd (isStar_of_mem hmem) (by decide)
  intro r r' h
  unfold mark at h
  by_cases hr : r.isOptional = true <;> by_cases hr' : r'.isOptional = true
  · rw [r.isOptional_iff.1 hr, r'.isOptional_iff.1 hr']
  · rw [if_pos hr, if_neg hr'] at h
    exact absurd h (hbracket r')
  · rw [if_neg hr, if_pos hr'] at h
    exact absurd h.symm (hbracket r)
  · rw [if_neg hr, if_neg hr'] at h
    exact star_inj (congrArg String.toList h)

namespace Kind

/-- A construct in HTML, by what stands between its tags. -/
def enclose (kind : Kind) (inside : List Char) : List Char :=
  (Token.opening .span kind.styleClass).html ++ (inside ++ (Token.closing .span).html)

/-- What is enclosed is known by its opening tag. -/
lemma enclose_inj {kind kind' : Kind} {inside inside' r s : List Char}
    (h : kind.enclose inside ++ r = kind'.enclose inside' ++ s) :
    kind = kind' ∧ inside ++ ((Token.closing .span).html ++ r) =
      inside' ++ ((Token.closing .span).html ++ s) := by
  simp only [enclose, List.append_assoc] at h
  obtain ⟨-, hclass, hinside⟩ := Token.html_opening_inj h
  exact ⟨styleClass_injective hclass, hinside⟩

/-- An enclosed text ends where it is closed. -/
lemma enclose_text_inj {kind : Kind} {content other : String} {r s : List Char}
    (h : kind.enclose (Token.text content).html ++ r = kind.enclose (Token.text other).html ++ s) :
    content = other ∧ r = s := by
  obtain ⟨-, hinside⟩ := enclose_inj h
  obtain ⟨hcontent, hrest⟩ := Token.html_text_inj (Token.stops_closing _ r)
    (Token.stops_closing _ s) hinside
  exact ⟨hcontent, List.append_cancel_left hrest⟩

end Kind

namespace Node

/-- What is written for a literal tells the text and the base. -/
lemma literalContent_inj {casing : Casing} {text text' : String} {base base' : Option Base}
    (ht : base ≠ none → text ≠ "") (ht' : base' ≠ none → text' ≠ "")
    (h : literalContent casing text base = literalContent casing text' base') :
    text = text' ∧ base = base' := by
  -- Codes have the letter of their base where a text in quotes has another letter or a quote.
  have hquoted : ∀ (text text' : String) (base : Base), text' ≠ "" →
      literalContent casing text none ≠ literalContent casing text' (some base) := by
    intro text text' base htext' heq
    rw [← String.toList_inj, literalContent, literalContent, base.toList_encodeText htext'] at heq
    cases casing <;> cases base <;> simp [Base.letter] at heq
  cases base with
  | none =>
    cases base' with
    | none =>
      simp only [literalContent, ← String.toList_inj, String.toList_append, List.append_assoc] at h
      have htext := List.append_cancel_right
        (List.append_cancel_left (List.append_cancel_left h))
      exact ⟨String.toList_inj.1 htext, rfl⟩
    | some base' => exact absurd h (hquoted text text' base' (ht' (by simp)))
  | some base =>
    cases base' with
    | none => exact absurd h.symm (hquoted text' text base (ht (by simp)))
    | some base' =>
      have hcode := ht (by simp)
      have hcode' := ht' (by simp)
      rw [← String.toList_inj, literalContent, literalContent, base.toList_encodeText hcode,
        base'.toList_encodeText hcode'] at h
      simp only [List.cons.injEq, true_and] at h
      obtain rfl := Base.letter_injective h.1
      have hnil : Stops Base.isCode [] := by simp [Stops]
      obtain ⟨htext, -⟩ := base.codes_inj hcode hcode' hnil hnil (congrArg (· ++ []) h.2)
      exact ⟨htext, rfl⟩

variable {anchor : String → String}

/-- What HTML makes of a definition. -/
def html (anchor : String → String) (node : Node) : List Char :=
  (node.tokens anchor).flatMap Token.html

lemma html_around (kind : Kind) (inner : List Token) :
    (Element.span.around kind.styleClass inner).flatMap Token.html =
      kind.enclose (inner.flatMap Token.html) := by
  rw [Markup.flatMap_around, Kind.enclose, List.append_assoc]

lemma html_literal (casing : Casing) (text : String) (base : Option Base) :
    html anchor (.literal casing text base) =
      (Kind.literal casing).enclose (Token.text (literalContent casing text base)).html := by
  rw [html, tokens, html_around, List.flatMap_singleton]

lemma html_range (first last : UInt32) (base : Base) : html anchor (.range first last base) =
    Kind.range.enclose (Token.text (base.encodeRange first last)).html := by
  rw [html, tokens, html_around, List.flatMap_singleton]

lemma html_prose (text : String) : html anchor (.prose text) =
    Kind.prose.enclose (Token.text ("<" ++ text ++ ">")).html := by
  rw [html, tokens, html_around, List.flatMap_singleton]

lemma html_reference (name : String) : html anchor (.reference name) =
    (Token.opening .link ("#" ++ anchor name)).html ++
      ((Token.text name).html ++ (Token.closing .link).html) := by
  rw [html, tokens, Markup.flatMap_around, List.flatMap_singleton, List.append_assoc]

lemma html_intercalate (separator : String) (nodes : List Node) :
    ([Token.text separator].intercalate (tokensAll anchor nodes)).flatMap Token.html =
      (Token.text separator).html.intercalate (nodes.map (html anchor)) := by
  rw [Markup.flatMap_intercalate, tokensAll_eq_map, List.map_map]
  rfl

lemma html_concatenation (elements : List Node) : html anchor (.concatenation elements) =
    Kind.concatenation.enclose
      ((Token.text " ").html.intercalate (elements.map (html anchor))) := by
  rw [html, tokens, html_around, html_intercalate]

lemma html_alternation (choices : List Node) : html anchor (.alternation choices) =
    Kind.alternation.enclose
      ((Token.text " / ").html.intercalate (choices.map (html anchor))) := by
  rw [html, tokens, html_around, html_intercalate]

lemma html_group (inner : Node) : html anchor (.group inner) =
    Kind.group.enclose ((Token.text "(").html ++ (inner.html anchor ++ (Token.text ")").html)) := by
  rw [html, tokens, html_around]
  simp [html]

lemma html_repetition (element : Node) (bounds : Repeat) :
    html anchor (.repetition element bounds) = Kind.repetition.enclose
      ((Token.text bounds.mark).html ++
        if bounds.isOptional then element.unwrapped.html anchor ++ (Token.text "]").html
        else element.html anchor) := by
  rw [html, tokens_repetition, html_around, Repeat.mark]
  cases bounds.isOptional <;> simp [html]

/-! ## Reading nodes -/

/-- Whether every node of a tree has a meaning below the top of a rule. -/
def Meaningful (node : Node) : Prop := ∀ tree ∈ node.subtrees, ∀ reason, ¬ Misplaced tree reason

namespace Meaningful

variable {node : Node}

lemma child (h : node.Meaningful) {child : Node} (hchild : child ∈ node.children) :
    child.Meaningful := fun tree htree => h tree (mem_subtrees_of_child hchild htree)

lemma unwrapped (h : node.Meaningful) : node.unwrapped.Meaningful := fun tree htree =>
  h tree (mem_subtrees_of_unwrapped htree)

/-- A literal that is given by codes has characters. -/
lemma ne_empty {casing : Casing} {text : String} {base : Option Base}
    (h : (literal casing text base).Meaningful) (hbase : base ≠ none) : text ≠ "" := by
  rintro rfl
  obtain ⟨b, rfl⟩ := Option.ne_none_iff_exists'.1 hbase
  exact h _ (self_mem_subtrees _) _ (.codeless casing b)

/-- What can be written has a meaning. -/
lemma of_list {markup : Markup} {d : Descent} {text : String}
    (h : node.list markup anchor d = .ok text) : node.Meaningful := by
  intro tree htree reason hmisplaced
  have hfault : tree.fault d.rule = some _ := fault_eq_some_iff.2 ⟨reason, hmisplaced, rfl⟩
  rw [fault_eq_none_of_list h htree] at hfault
  simp at hfault

/-- A node is a reference, or is enclosed by the class of its kind. -/
lemma enclosed (h : node.Meaningful) (anchor : String → String) :
    (∃ name, node = .reference name) ∨ ∃ inside, node.html anchor = node.kind.enclose inside := by
  cases node with
  | rule name definition =>
    exact absurd (.nested name definition) (h _ (self_mem_subtrees _) _)
  | reference name => exact Or.inl ⟨name, rfl⟩
  | literal casing text base => exact Or.inr ⟨_, html_literal casing text base⟩
  | range first last base => exact Or.inr ⟨_, html_range first last base⟩
  | prose text => exact Or.inr ⟨_, html_prose text⟩
  | concatenation elements => exact Or.inr ⟨_, html_concatenation elements⟩
  | alternation choices => exact Or.inr ⟨_, html_alternation choices⟩
  | group inner => exact Or.inr ⟨_, html_group inner⟩
  | repetition element bounds => exact Or.inr ⟨_, html_repetition element bounds⟩

/-- The listing of a node tells its kind. -/
lemma kind_eq (h : node.Meaningful) {other : Node} (hother : other.Meaningful) {r s : List Char}
    (heq : node.html anchor ++ r = other.html anchor ++ s) : node.kind = other.kind := by
  rcases h.enclosed anchor with ⟨name, rfl⟩ | ⟨inside, hinside⟩ <;>
    rcases hother.enclosed anchor with ⟨name', rfl⟩ | ⟨inside', hinside'⟩
  · rfl
  · simp only [html_reference, hinside', Kind.enclose, List.append_assoc] at heq
    exact absurd (Token.html_opening_inj heq).1 (by decide)
  · simp only [html_reference, hinside, Kind.enclose, List.append_assoc] at heq
    exact absurd (Token.html_opening_inj heq).1 (by decide)
  · rw [hinside, hinside'] at heq
    exact (Kind.enclose_inj heq).1

/-- A node does not begin with a closing tag. -/
lemma html_ne_closing (h : node.Meaningful) (r s : List Char) :
    node.html anchor ++ r ≠ (Token.closing .span).html ++ s := by
  intro heq
  rcases h.enclosed anchor with ⟨name, rfl⟩ | ⟨inside, hinside⟩
  · rw [html_reference, List.append_assoc] at heq
    exact Token.opening_ne_closing heq
  · rw [hinside, Kind.enclose, List.append_assoc] at heq
    exact Token.opening_ne_closing heq

/-- A node begins with a tag. -/
lemma stops_html (h : node.Meaningful) (rest : List Char) :
    Stops (· != '<') (node.html anchor ++ rest) := by
  rcases h.enclosed anchor with ⟨name, rfl⟩ | ⟨inside, hinside⟩
  · rw [html_reference, html_opening]
    exact stops_cons.2 rfl
  · rw [hinside, Kind.enclose, html_opening]
    exact stops_cons.2 rfl

/-- What follows the mark of a repetition begins with a tag. -/
lemma stops_repeated (h : node.Meaningful) (bounds : Repeat) (rest : List Char) :
    Stops (· != '<') ((if bounds.isOptional then
      node.unwrapped.html anchor ++ (Token.text "]").html else node.html anchor) ++ rest) := by
  split
  · rw [List.append_assoc]
    exact h.unwrapped.stops_html _
  · exact h.stops_html rest

end Meaningful

/-- Nodes with separators in between end where the next tag is no longer behind a separator. -/
lemma separates_html (anchor : String → String) {separator : List Char}
    (hseparator : separator.head? = some ' ') :
    Separates separator (html anchor) Meaningful (fun _ => True) (·.head? = some '<') where
  last _ := trivial
  next _ := trivial
  stop r _ h := by
    have hne : separator ≠ [] := fun hnil => by simp [hnil] at hseparator
    rw [List.head?_append_of_ne_nil _ hne, hseparator] at h
    exact absurd h (by decide)

/-- Where there are nodes, no closing tag comes first. -/
lemma html_intercalate_ne_closing (separator : List Char) {nodes : List Node} (hne : nodes ≠ [])
    (h : ∀ node ∈ nodes, node.Meaningful) (r s : List Char) :
    separator.intercalate (nodes.map (html anchor)) ++ r ≠ (Token.closing .span).html ++ s := by
  match nodes with
  | [] => exact absurd rfl hne
  | [node] =>
    rw [List.map_singleton, List.intercalate_singleton]
    exact (h node (by simp)).html_ne_closing r s
  | node :: next :: rest =>
    rw [List.map_cons, List.map_cons, List.intercalate_cons_cons, List.append_assoc,
      List.append_assoc]
    exact (h node (by simp)).html_ne_closing _ s

/-- If single nodes can be read, so can any number of them with separators in between, when they are
enclosed. -/
lemma forms_eq_of_html {kind : Kind} {separator : List Char}
    (hseparator : separator.head? = some ' ') {nodes others : List Node}
    (hnodes : ∀ node ∈ nodes, node.Meaningful)
    (hothers : ∀ other ∈ others, other.Meaningful)
    (ih : ∀ node ∈ nodes, ∀ other ∈ others, ∀ {r s : List Char},
      node.html anchor ++ r = other.html anchor ++ s → node.form = other.form ∧ r = s)
    {r s : List Char}
    (h : kind.enclose (separator.intercalate (nodes.map (html anchor))) ++ r =
      kind.enclose (separator.intercalate (others.map (html anchor))) ++ s) :
    nodes.map form = others.map form ∧ r = s := by
  obtain ⟨-, hinside⟩ := Kind.enclose_inj h
  by_cases hnil : nodes = []
  · by_cases hnil' : others = []
    · subst hnil hnil'
      exact ⟨rfl, List.append_cancel_left hinside⟩
    · subst hnil
      exact absurd hinside.symm (html_intercalate_ne_closing separator hnil' hothers _ _)
  · by_cases hnil' : others = []
    · subst hnil'
      exact absurd hinside (html_intercalate_ne_closing separator hnil hnodes _ _)
    · obtain ⟨hforms, hrest⟩ := (separates_html anchor hseparator).inj
        (fun x hx y hy _ _ _ _ heq => ih x hx y hy heq) hnodes hothers hnil hnil' rfl rfl
        hinside
      exact ⟨hforms, List.append_cancel_left hrest⟩

/-- **Reading a node.**  The listing of a node and what follows it can be cut in one way only, and
then the node is known but for groups directly inside brackets. -/
theorem form_eq_of_html {node other : Node} (hnode : node.Meaningful) (hother : other.Meaningful)
    {r s : List Char} (h : node.html anchor ++ r = other.html anchor ++ s) :
    node.form = other.form ∧ r = s := by
  induction node generalizing other r s with
  | rule name definition _ =>
    exact absurd (.nested name definition) (hnode _ (self_mem_subtrees _) _)
  | literal casing text base =>
    have hkind := hnode.kind_eq hother h
    cases other with
    | literal casing' text' base' =>
      obtain rfl : casing = casing' := by simpa [kind] using hkind
      rw [html_literal, html_literal] at h
      obtain ⟨hcontent, hrest⟩ := Kind.enclose_text_inj h
      obtain ⟨rfl, rfl⟩ := literalContent_inj hnode.ne_empty hother.ne_empty hcontent
      exact ⟨rfl, hrest⟩
    | _ => simp [kind] at hkind
  | range first last base =>
    have hkind := hnode.kind_eq hother h
    cases other with
    | range first' last' base' =>
      rw [html_range, html_range] at h
      obtain ⟨hcodes, hrest⟩ := Kind.enclose_text_inj h
      obtain ⟨rfl, rfl, rfl⟩ := Base.encodeRange_inj hcodes
      exact ⟨rfl, hrest⟩
    | _ => simp [kind] at hkind
  | prose text =>
    have hkind := hnode.kind_eq hother h
    cases other with
    | prose text' =>
      rw [html_prose, html_prose] at h
      obtain ⟨hcontent, hrest⟩ := Kind.enclose_text_inj h
      rw [← String.toList_inj, String.toList_append, String.toList_append, String.toList_append,
        String.toList_append] at hcontent
      have htext := List.append_cancel_left (List.append_cancel_right hcontent)
      obtain rfl := String.toList_inj.1 htext
      exact ⟨rfl, hrest⟩
    | _ => simp [kind] at hkind
  | reference name =>
    have hkind := hnode.kind_eq hother h
    cases other with
    | reference name' =>
      simp only [html_reference, List.append_assoc] at h
      obtain ⟨-, -, hinside⟩ := Token.html_opening_inj h
      obtain ⟨rfl, hrest⟩ := Token.html_text_inj (Token.stops_closing _ r)
        (Token.stops_closing _ s) hinside
      exact ⟨rfl, List.append_cancel_left hrest⟩
    | _ => simp [kind] at hkind
  | concatenation elements ih =>
    have hkind := hnode.kind_eq hother h
    cases other with
    | concatenation elements' =>
      rw [html_concatenation, html_concatenation] at h
      have hbelow : ∀ element ∈ elements, element.Meaningful := fun _ he => hnode.child he
      have hbelow' : ∀ element ∈ elements', element.Meaningful := fun _ he => hother.child he
      obtain ⟨hforms, hrest⟩ := forms_eq_of_html (by decide) hbelow hbelow'
        (fun x hx y hy _ _ heq => ih x hx (hbelow x hx) (hbelow' y hy) heq) h
      exact ⟨form_eq_iff.2 (SameBrackets.of_forms .concatenation hforms), hrest⟩
    | _ => simp [kind] at hkind
  | alternation choices ih =>
    have hkind := hnode.kind_eq hother h
    cases other with
    | alternation choices' =>
      rw [html_alternation, html_alternation] at h
      have hbelow : ∀ choice ∈ choices, choice.Meaningful := fun _ hc => hnode.child hc
      have hbelow' : ∀ choice ∈ choices', choice.Meaningful := fun _ hc => hother.child hc
      obtain ⟨hforms, hrest⟩ := forms_eq_of_html (by decide) hbelow hbelow'
        (fun x hx y hy _ _ heq => ih x hx (hbelow x hx) (hbelow' y hy) heq) h
      exact ⟨form_eq_iff.2 (SameBrackets.of_forms .alternation hforms), hrest⟩
    | _ => simp [kind] at hkind
  | group inner ih =>
    have hkind := hnode.kind_eq hother h
    cases other with
    | group inner' =>
      rw [html_group, html_group] at h
      obtain ⟨-, hinside⟩ := Kind.enclose_inj h
      simp only [List.append_assoc] at hinside
      obtain ⟨hform, hrest⟩ := ih (hnode.child (by simp [children]))
        (hother.child (by simp [children])) (List.append_cancel_left hinside)
      exact ⟨form_eq_iff.2 (form_eq_iff.1 hform).group,
        List.append_cancel_left (List.append_cancel_left hrest)⟩
    | _ => simp [kind] at hkind
  | repetition element bounds ih ihu =>
    have hkind := hnode.kind_eq hother h
    cases other with
    | repetition element' bounds' =>
      have helement : element.Meaningful := hnode.child (by simp [children])
      have helement' : element'.Meaningful := hother.child (by simp [children])
      rw [html_repetition, html_repetition] at h
      obtain ⟨-, hinside⟩ := Kind.enclose_inj h
      simp only [List.append_assoc] at hinside
      obtain ⟨hmark, hrest⟩ := Token.html_text_inj (helement.stops_repeated _ _)
        (helement'.stops_repeated _ _) hinside
      obtain rfl := Repeat.mark_injective hmark
      by_cases hoptional : bounds.isOptional = true
      · obtain rfl := bounds.isOptional_iff.1 hoptional
        rw [if_pos hoptional, if_pos hoptional, List.append_assoc, List.append_assoc] at hrest
        obtain ⟨hform, hend⟩ := ihu helement.unwrapped helement'.unwrapped hrest
        exact ⟨form_eq_iff.2 (SameBrackets.of_unwrapped (form_eq_iff.1 hform)),
          List.append_cancel_left (List.append_cancel_left hend)⟩
      · rw [if_neg hoptional, if_neg hoptional] at hrest
        obtain ⟨hform, hend⟩ := ih helement helement' hrest
        exact ⟨form_eq_iff.2 ((form_eq_iff.1 hform).repetition bounds),
          List.append_cancel_left hend⟩
    | _ => simp [kind] at hkind

end Node

/-! ## Rules -/

namespace Listing

variable {dependencies : Dependencies} {style : LinkStyle} {grammar : Option Grammar}
  {limit limit' : Nat} {name name' : String} {definition definition' : Node} {text text' : String}

/-- The HTML listing of a rule is its declaration and its definition, enclosed. -/
lemma toList_rule_html
    (h : (Listing.mk dependencies (.html style) grammar limit).rule (.rule name definition) =
      .ok text) :
    text.toList = Kind.rule.enclose
      ((declarationTokens style name (dependencies.provenance name)).flatMap Token.html ++
        ((Token.text " = ").html ++ definition.html (anchorIn grammar))) := by
  rw [toList_rule rfl h, ruleTokens, Node.html_around, List.flatMap_append, List.flatMap_cons,
    Node.html]

/-- What has been written has a meaning. -/
lemma meaningful_of_rule {listing : Listing}
    (h : listing.rule (.rule name definition) = .ok text) : definition.Meaningful := by
  rw [rule_eq] at h
  obtain ⟨body, hbody, -⟩ := Node.exists_of_bind_eq_ok h
  exact .of_list hbody

/-- **HTML listings are lossless.**  Two rules that have been written as HTML, with the same
dependencies, grammar and links, have the same listing exactly when they have the same name and the
same definition, but for groups directly inside brackets that hold no group themselves. -/
theorem html_eq_iff
    (h : (Listing.mk dependencies (.html style) grammar limit).rule (.rule name definition) =
      .ok text)
    (h' : (Listing.mk dependencies (.html style) grammar limit').rule (.rule name' definition') =
      .ok text') :
    text = text' ↔ name = name' ∧ SameBrackets definition definition' := by
  have hlist := toList_rule_html h
  have hlist' := toList_rule_html h'
  constructor
  · rintro rfl
    -- The declaration is known by its anchor, and then the definition is what is left.
    have hanchor := (anchors_rule rfl h).symm.trans (anchors_rule rfl h')
    simp only [List.cons.injEq, and_true, ← String.toList_inj, String.toList_append] at hanchor
    have hname := List.append_cancel_left (List.append_cancel_right hanchor)
    obtain rfl := Text.escapeAttribute_injective (String.toList_inj.1 hname)
    rw [hlist] at hlist'
    obtain ⟨-, hinside⟩ := Kind.enclose_inj (congrArg (· ++ []) hlist')
    simp only [List.append_assoc] at hinside
    obtain ⟨hform, -⟩ := Node.form_eq_of_html (meaningful_of_rule h) (meaningful_of_rule h')
      (List.append_cancel_left (List.append_cancel_left hinside))
    exact ⟨rfl, Node.form_eq_iff.1 hform⟩
  · rintro ⟨rfl, hsame⟩
    rw [← String.toList_inj, hlist, hlist', Node.html, Node.html, (hsame.tokens_eq _).1]

/-- A definition whose plain text does not tell the alternation from the concatenation, with quotes
inside quotes and an option around an element. -/
def motley (element : Node) : Node :=
  .concatenation
    [.literal .sensitive "a\" / <b>" none, .alternation [.concatenation [], .prose "c>"],
     .repetition element ⟨0, some 1⟩]

/-- Whether the element of the option stands in a group is not seen. -/
theorem html_eq_iff_motley :
    ∃ text, (Listing.mk .none (.html .verbatim) none 3).rule
        (.rule "x\"y" (motley (.reference "z"))) = .ok text ∧
      (Listing.mk .none (.html .verbatim) none 4).rule
        (.rule "x\"y" (motley (.group (.reference "z")))) = .ok text := by
  obtain ⟨text, htext⟩ := failure_eq_none_iff.1
    (((Listing.mk .none (.html .verbatim) none 3).rule_failure
      (.rule "x\"y" (motley (.reference "z")))).trans (by decide))
  obtain ⟨text', htext'⟩ := failure_eq_none_iff.1
    (((Listing.mk .none (.html .verbatim) none 4).rule_failure
      (.rule "x\"y" (motley (.group (.reference "z"))))).trans (by decide))
  have hsame : SameBrackets (motley (.reference "z")) (motley (.group (.reference "z"))) :=
    SameBrackets.concatenation [.literal .sensitive "a\" / <b>" none,
      .alternation [.concatenation [], .prose "c>"]] [] (SameBrackets.optional rfl).symm
  obtain rfl : text = text' := (html_eq_iff htext htext').2 ⟨rfl, hsame⟩
  exact ⟨text, htext, htext'⟩

end Listing

end Abnf
