import Abnf.Proofs.Entities
import Abnf.Proofs.Tokens
import Abnf.Proofs.Visits

/-!
# The markup of a listing

An HTML listing is the plain listing with markup around its parts, whatever the names, texts and
sources of a grammar are made of (`html_listing`).  It falls into texts and tags such that elements
are closed in the reverse order in which they were opened, no text opens a tag, and no attribute
value leaves its quotes.  Without the tags, and with its entities read, it is the plain listing.
-/

namespace Abnf

/-- A sequence of texts that neither open nor close a tag, and of elements with such a sequence
inside and a value that stays within its quotes. -/
inductive Nested : List Token → Prop
  /-- Nothing. -/
  | nil : Nested []
  /-- A text in front. -/
  | text {content : String} {rest : List Token} :
      (∀ c ∈ content.toList, c ≠ '<' ∧ c ≠ '>') → Nested rest → Nested (.text content :: rest)
  /-- An element in front. -/
  | element {element : Element} {value : String} {inner rest : List Token} :
      (∀ c ∈ value.toList, c ≠ '<' ∧ c ≠ '>' ∧ c ≠ element.quote) → Nested inner → Nested rest →
      Nested (element.around value inner ++ rest)

/-- What is left of a text when every tag is deleted, from `<` to the next `>`.  The flag says
whether one is inside a tag. -/
def dropTags : Bool → List Char → List Char
  | _, [] => []
  | false, c :: rest => if c = '<' then dropTags true rest else c :: dropTags false rest
  | true, c :: rest => dropTags (c != '>') rest

namespace Nested

lemma append {tokens others : List Token} (h : Nested tokens) (hothers : Nested others) :
    Nested (tokens ++ others) := by
  induction h with
  | nil => exact hothers
  | text hcontent _ ih => exact .text hcontent ih
  | element hvalue hinner _ _ ih =>
    rw [List.append_assoc]
    exact .element hvalue hinner ih

end Nested

/-! ## Escaped tokens -/

lemma nested_text (content : String) : Nested [Token.escaped (.text content)] :=
  .text (fun _ hc => Text.mem_escapeHtml hc) .nil

lemma nested_around (element : Element) (value : String) (inner : List Token)
    (h : Nested (inner.map Token.escaped)) :
    Nested ((element.around value inner).map Token.escaped) := by
  have hvalue : ∀ c ∈ (Text.escapeAttribute value).toList,
      c ≠ '<' ∧ c ≠ '>' ∧ c ≠ element.quote := by
    intro c hc
    obtain ⟨hlt, hgt, hquot, hapos⟩ := Text.mem_escapeAttribute hc
    refine ⟨hlt, hgt, ?_⟩
    cases element with
    | span => exact hapos
    | link => exact hquot
    | definition => exact hquot
  have hnested := Nested.element hvalue h .nil
  simpa [Element.around, Token.escaped] using hnested

lemma nested_intercalate (separator : String) {parts : List (List Token)}
    (h : ∀ part ∈ parts, Nested (part.map Token.escaped)) :
    Nested (([Token.text separator].intercalate parts).map Token.escaped) := by
  induction parts with
  | nil => exact .nil
  | cons part rest ih =>
    have hpart := h part (by simp)
    have hrest := ih fun other ho => h other (by simp [ho])
    cases rest with
    | nil => simpa using hpart
    | cons next others =>
      rw [List.intercalate_cons_cons, List.map_append, List.map_append]
      exact (hpart.append (nested_text separator)).append hrest

/-- The tokens of a definition are nested, whatever its names and texts are. -/
theorem nested_tokens (anchor : String → String) (node : Node) :
    Nested ((node.tokens anchor).map Token.escaped) := by
  induction node with
  | rule name definition ih => exact .nil
  | literal casing text base => exact nested_around _ _ _ (nested_text _)
  | range first last base => exact nested_around _ _ _ (nested_text _)
  | prose text => exact nested_around _ _ _ (nested_text _)
  | reference name => exact nested_around _ _ _ (nested_text _)
  | concatenation elements ih =>
    refine nested_around _ _ _ (nested_intercalate _ ?_)
    intro part hpart
    rw [Node.tokensAll_eq_map] at hpart
    obtain ⟨element, helement, rfl⟩ := List.mem_map.1 hpart
    exact ih element helement
  | alternation choices ih =>
    refine nested_around _ _ _ (nested_intercalate _ ?_)
    intro part hpart
    rw [Node.tokensAll_eq_map] at hpart
    obtain ⟨choice, hchoice, rfl⟩ := List.mem_map.1 hpart
    exact ih choice hchoice
  | group inner ih =>
    have hinner := (nested_text "(").append (ih.append (nested_text ")"))
    exact nested_around _ _ _ (by simpa using hinner)
  | repetition element bounds ih ihu =>
    rw [Node.tokens_repetition]
    refine nested_around _ _ _ ?_
    by_cases hoptional : bounds.isOptional = true
    · have hinner := (nested_text "[").append (ihu.append (nested_text "]"))
      rw [if_pos hoptional]
      simpa using hinner
    · have hinner := (nested_text bounds.star).append ih
      rw [if_neg hoptional]
      simpa using hinner

lemma nested_declarationTokens (style : LinkStyle) (name : String) (provenance : Provenance) :
    Nested ((declarationTokens style name provenance).map Token.escaped) := by
  have hname := nested_around .definition name [.text name] (nested_text name)
  rw [declarationTokens]
  split
  · exact hname
  · next source _ =>
    have hsource := nested_around .link (style.grammarLink source) [.text source]
      (nested_text source)
    have hcomment := nested_around .span "comment"
      (.text ("; " ++ provenance.verb ++ " ") ::
        Element.link.around (style.grammarLink source) [.text source])
      ((nested_text _).append hsource)
    have hlink := nested_around .link (style.ruleLink source name) _ hname
    simpa using hcomment.append ((nested_text "\n").append hlink)

/-- The tokens of a rule are nested. -/
theorem nested_ruleTokens (style : LinkStyle) (provenance : Provenance) (anchor : String → String)
    (name : String) (definition : Node) :
    Nested ((ruleTokens style provenance anchor name definition).map Token.escaped) := by
  have hinner := (nested_declarationTokens style name provenance).append
    ((nested_text " = ").append (nested_tokens anchor definition))
  exact nested_around _ _ _ (by simpa using hinner)

/-! ## Deleting the tags -/

lemma dropTags_text {content : List Char} (h : ∀ c ∈ content, c ≠ '<' ∧ c ≠ '>')
    (rest : List Char) : dropTags false (content ++ rest) = content ++ dropTags false rest := by
  induction content with
  | nil => rfl
  | cons c content ih =>
    have hc := (h c (by simp)).1
    have hcontent := ih fun d hd => h d (by simp [hd])
    simp [dropTags, hc, hcontent]

lemma dropTags_value {value : List Char} (h : ∀ c ∈ value, c ≠ '>') (rest : List Char) :
    dropTags true (value ++ rest) = dropTags true rest := by
  induction value with
  | nil => rfl
  | cons c value ih =>
    have hc : (c != '>') = true := by simpa using h c (by simp)
    have hvalue := ih fun d hd => h d (by simp [hd])
    rw [List.cons_append, dropTags, hc, hvalue]

lemma dropTags_opening (element : Element) {value : String} (h : ∀ c ∈ value.toList, c ≠ '>')
    (rest : List Char) :
    dropTags false ((Token.opening element value).chars ++ rest) = dropTags false rest := by
  have hvalue := dropTags_value h
  cases element <;> simp [Token.chars, Element.start, Element.quote, dropTags, hvalue]

lemma dropTags_closing (element : Element) (rest : List Char) :
    dropTags false ((Token.closing element).chars ++ rest) = dropTags false rest := by
  cases element <;> simp [Token.chars, Element.stop, dropTags]

/-- Without the tags, what is left of nested tokens is their text. -/
lemma Nested.dropTags_chars {tokens : List Token} (h : Nested tokens) (rest : List Char) :
    dropTags false (tokens.flatMap Token.chars ++ rest) =
      tokens.flatMap Token.content ++ dropTags false rest := by
  induction h generalizing rest with
  | nil => rfl
  | text hcontent _ ih =>
    rw [List.flatMap_cons, List.flatMap_cons, List.append_assoc, Token.chars,
      dropTags_text hcontent, ih, Token.content, List.append_assoc]
  | @element element value inner others hvalue _ _ ihinner ih =>
    -- The value ends at the first `>`, which closes the opening tag.
    have hopening := dropTags_opening element fun c hc => (hvalue c hc).2.1
    have hsplit : ∀ f : Token → List Char, (element.around value inner ++ others).flatMap f =
        f (.opening element value) ++ (inner.flatMap f ++ (f (.closing element) ++
          others.flatMap f)) := by
      intro f
      simp [Element.around]
    rw [hsplit, hsplit, List.append_assoc, hopening, List.append_assoc, ihinner,
      List.append_assoc, dropTags_closing, ih]
    simp [Token.content]

/-- The text of an escaped token is the escaped text of the token. -/
lemma content_escaped (token : Token) :
    token.escaped.content = token.content.flatMap Text.entity := by
  cases token with
  | text content => exact Text.toList_expand _ _
  | opening element value => rfl
  | closing element => rfl

/-! ## The listing of a rule -/

namespace Listing

/-- If the HTML listing of a rule is written, it falls into nested tokens that have the plain
listing as their text. -/
lemma nested_rule {listing : Listing} {style : LinkStyle} {node : Node} {html plain : String}
    (hhtml : { listing with markup := .html style }.rule node = .ok html)
    (hplain : { listing with markup := .plain }.rule node = .ok plain) :
    ∃ tokens, Nested tokens ∧ html.toList = tokens.flatMap Token.chars ∧
      tokens.flatMap Token.content = (Text.escapeHtml plain).toList := by
  cases node with
  | rule name definition =>
    have hspelled := rule_spelled _ (Markup.spells_html style) hhtml
    have hcontent := rule_spelled _ (Markup.spells_plain style) hplain
    refine ⟨_, nested_ruleTokens style (listing.dependencies.provenance name)
      (anchorIn listing.grammar) name definition, ?_, ?_⟩
    · rw [hspelled, List.flatMap_map]
    · rw [Text.escapeHtml, Text.toList_expand, hcontent, List.flatMap_assoc, List.flatMap_map]
      exact List.flatMap_congr fun token _ => content_escaped token
  | _ => simp [rule] at hhtml

/-- **HTML is plain text with markup.**  The HTML listing and the plain listing of a rule fail
alike, with the first fault of the rule.  Without a fault both are written, the HTML listing falls
into nested texts and tags, and it is the plain listing once the tags are deleted and the entities
are read. -/
theorem html_listing (listing : Listing) (style : LinkStyle) (node : Node) :
    (∃ error, node.ruleFault listing.maxDepth = some error ∧
        { listing with markup := .html style }.rule node = .error error ∧
        { listing with markup := .plain }.rule node = .error error) ∨
      ∃ html plain, node.ruleFault listing.maxDepth = none ∧
        { listing with markup := .html style }.rule node = .ok html ∧
        { listing with markup := .plain }.rule node = .ok plain ∧
        (∃ tokens, Nested tokens ∧ html.toList = tokens.flatMap Token.chars) ∧
        Text.decode Text.entities (dropTags false html.toList) = plain.toList := by
  have hhtml := rule_failure { listing with markup := .html style } node
  have hplain := rule_failure { listing with markup := .plain } node
  cases hfault : node.ruleFault listing.maxDepth with
  | some error =>
    have herror := failure_eq_some_iff.1 (hhtml.trans hfault)
    have herror' := failure_eq_some_iff.1 (hplain.trans hfault)
    exact .inl ⟨error, rfl, herror, herror'⟩
  | none =>
    obtain ⟨html, hhtml⟩ := failure_eq_none_iff.1 (hhtml.trans hfault)
    obtain ⟨plain, hplain⟩ := failure_eq_none_iff.1 (hplain.trans hfault)
    obtain ⟨tokens, hnested, hchars, hcontent⟩ := nested_rule hhtml hplain
    refine .inr ⟨html, plain, rfl, hhtml, hplain, ⟨tokens, hnested, hchars⟩, ?_⟩
    have hdrop := hnested.dropTags_chars []
    rw [List.append_nil, dropTags, List.append_nil, hcontent] at hdrop
    rw [hchars, hdrop, Text.decode_escapeHtml]

end Listing

end Abnf
