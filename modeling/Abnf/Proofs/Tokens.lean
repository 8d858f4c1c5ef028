import Abnf.Proofs.Entities
import Abnf.Proofs.Numeral
import Abnf.Proofs.Threads

/-!
# Listings as sequences of tokens

The listing of a rule is a sequence of texts, opening tags and closing tags, which does not depend
on the markup (`tokens`).  A markup only says how each of them is written: HTML writes the tags and
escapes the texts, plain text leaves the tags out.  A markup that writes token by token is said to
spell (`Markup.Spells`), and its listings are the spelled tokens (`Spells.list`, `rule_spelled`).
-/

namespace Abnf

/-- The elements that occur in listings. -/
inductive Element where
  /-- A part of the listing with a class. -/
  | span
  /-- A link. -/
  | link
  /-- The place where a rule is declared. -/
  | definition
deriving DecidableEq, Repr, Inhabited

namespace Element

/-- An opening tag up to the value of its attribute. -/
def start : Element → String
  | .span => "<span class='"
  | .link => "<a href=\""
  | .definition => "<dfn id=\""

/-- The quote around the value of the attribute. -/
def quote : Element → Char
  | .span => '\''
  | .link | .definition => '"'

/-- The closing tag. -/
def stop : Element → String
  | .span => "</span>"
  | .link => "</a>"
  | .definition => "</dfn>"

end Element

/-- A piece of a listing. -/
inductive Token where
  /-- Text between tags. -/
  | text (content : String)
  /-- An opening tag with the value of its attribute. -/
  | opening (element : Element) (value : String)
  /-- A closing tag. -/
  | closing (element : Element)
deriving DecidableEq, Repr, Inhabited

namespace Token

/-- The characters of a token as it stands. -/
def chars : Token → List Char
  | .text content => content.toList
  | .opening element value => element.start.toList ++ value.toList ++ [element.quote, '>']
  | .closing element => element.stop.toList

lemma chars_text (content : String) : (text content).chars = content.toList := rfl

/-- The text of a token, without tags. -/
def content : Token → List Char
  | .text content => content.toList
  | _ => []

/-- The token with its text or its value escaped. -/
def escaped : Token → Token
  | .text content => .text (Text.escapeHtml content)
  | .opening element value => .opening element (Text.escapeAttribute value)
  | .closing element => .closing element

end Token

/-- An element around some tokens. -/
def Element.around (element : Element) (value : String) (inner : List Token) : List Token :=
  .opening element value :: inner ++ [.closing element]

/-- The tokens of the place where a rule is declared. -/
def declarationTokens (style : LinkStyle) (name : String) (provenance : Provenance) : List Token :=
  match provenance.source? with
  | none => Element.definition.around name [.text name]
  | some source =>
    Element.span.around "comment" (.text ("; " ++ provenance.verb ++ " ") ::
        Element.link.around (style.grammarLink source) [.text source]) ++
      .text "\n" ::
      Element.link.around (style.ruleLink source name) (Element.definition.around name [.text name])

namespace Node

/-- The text of a literal.  Without characters it has no codes. -/
def literalContent (casing : Casing) (text : String) : Option Base → String
  | none => (if casing = .sensitive then "%s" else "") ++ "\"" ++ text ++ "\""
  | some base => (base.encodeText text).getD ""

mutual

/-- The tokens of a definition. -/
def tokens (anchor : String → String) (node : Node) : List Token :=
  match node with
  | .rule _ _ => []
  | .literal casing text base =>
    Element.span.around (Kind.literal casing).styleClass [.text (literalContent casing text base)]
  | .range first last base =>
    Element.span.around Kind.range.styleClass [.text (base.encodeRange first last)]
  | .prose text => Element.span.around Kind.prose.styleClass [.text ("<" ++ text ++ ">")]
  | .reference name => Element.link.around ("#" ++ anchor name) [.text name]
  | .concatenation elements =>
    Element.span.around Kind.concatenation.styleClass
      ([Token.text " "].intercalate (tokensAll anchor elements))
  | .alternation choices =>
    Element.span.around Kind.alternation.styleClass
      ([Token.text " / "].intercalate (tokensAll anchor choices))
  | .group inner =>
    Element.span.around Kind.group.styleClass (.text "(" :: tokens anchor inner ++ [.text ")"])
  | .repetition element bounds =>
    Element.span.around Kind.repetition.styleClass <|
      if bounds.isOptional then
        match element with
        | .group inner => .text "[" :: tokens anchor inner ++ [.text "]"]
        | element => .text "[" :: tokens anchor element ++ [.text "]"]
      else .text bounds.star :: tokens anchor element

/-- The tokens of several definitions. -/
def tokensAll (anchor : String → String) : List Node → List (List Token)
  | [] => []
  | node :: rest => tokens anchor node :: tokensAll anchor rest

end

lemma tokensAll_eq_map (anchor : String → String) (nodes : List Node) :
    tokensAll anchor nodes = nodes.map (tokens anchor) := by
  induction nodes with
  | nil => rfl
  | cons node rest ih => rw [tokensAll, List.map_cons, ih]

lemma tokens_repetition (anchor : String → String) (element : Node) (bounds : Repeat) :
    tokens anchor (.repetition element bounds) =
      Element.span.around Kind.repetition.styleClass
        (if bounds.isOptional then .text "[" :: tokens anchor element.unwrapped ++ [.text "]"]
        else .text bounds.star :: tokens anchor element) := by
  cases element <;> cases h : bounds.isOptional <;> simp [tokens, h, unwrapped]

end Node

/-- The tokens of a rule. -/
def ruleTokens (style : LinkStyle) (provenance : Provenance) (anchor : String → String)
    (name : String) (definition : Node) : List Token :=
  Element.span.around Kind.rule.styleClass
    (declarationTokens style name provenance ++ .text " = " :: definition.tokens anchor)

/-- The bounds in front of an element are made of digits and at most a star. -/
lemma Repeat.mem_star {r : Repeat} {c : Char} (h : c ∈ r.star.toList) :
    c = '*' ∨ (Base.decimal.digit? c).isSome = true := by
  obtain ⟨min, max⟩ := r
  rw [star] at h
  split at h
  · exact .inr (Base.isSome_digit?_of_mem_toString h)
  · rw [String.toList_append, String.toList_append, List.append_assoc] at h
    rcases List.mem_append.1 h with hmin | hrest
    · split at hmin
      · simp at hmin
      · exact .inr (Base.isSome_digit?_of_mem_toString hmin)
    · rcases List.mem_append.1 hrest with hstar | hmax
      · exact .inl (by simpa using hstar)
      · cases max with
        | none => simp at hmax
        | some max => exact .inr (Base.isSome_digit?_of_mem_toString hmax)

/-- The bounds in front of an element need no escaping. -/
lemma Repeat.isVerbatim_star (r : Repeat) : Text.isVerbatim r.star = true := by
  rw [Text.isVerbatim, List.all_eq_true]
  intro c hc
  rcases r.mem_star hc with rfl | hdigit
  · decide
  · exact Base.forall_digit (p := fun c => (Text.attributeEntity c == [c]) = true) (by decide) hdigit

/-! ## Markup that writes token by token -/

/-- A markup that writes every token by itself, and the marks of ABNF as they are. -/
structure Markup.Spells (markup : Markup) (style : LinkStyle) (spell : Token → List Char) :
    Prop where
  /-- A construct is written as an element. -/
  wrap (kind : Kind) (inner : String) : (markup.wrap kind inner).toList =
    spell (.opening .span kind.styleClass) ++ inner.toList ++ spell (.closing .span)
  /-- Literal text is written as a text. -/
  escape (text : String) : (markup.escape text).toList = spell (.text text)
  /-- A declaration is written by its tokens. -/
  declare (name : String) (provenance : Provenance) : (markup.declare name provenance).toList =
    (declarationTokens style name provenance).flatMap spell
  /-- A reference is written by its tokens. -/
  refer (name target : String) : (markup.refer name target).toList =
    (Element.link.around ("#" ++ target) [.text name]).flatMap spell
  /-- A text that needs no escaping is written as it is. -/
  mark (text : String) (h : Text.isVerbatim text = true) : spell (.text text) = text.toList

namespace Markup

section Spelled

variable {markup : Markup} {style : LinkStyle} {spell : Token → List Char}

/-- The characters of an element around some tokens. -/
lemma flatMap_around (element : Element) (value : String) (inner : List Token) :
    (element.around value inner).flatMap spell =
      spell (.opening element value) ++ inner.flatMap spell ++ spell (.closing element) := by
  simp [Element.around]

lemma flatMap_intercalate (separator : Token) (parts : List (List Token)) :
    ([separator].intercalate parts).flatMap spell =
      (spell separator).intercalate (parts.map fun part => part.flatMap spell) := by
  induction parts with
  | nil => rfl
  | cons part rest ih =>
    cases rest with
    | nil => simp
    | cons next others =>
      rw [List.intercalate_cons_cons, List.map_cons, List.map_cons, List.intercalate_cons_cons,
        ← List.map_cons, ← ih]
      simp

lemma listAll_spelled {anchor : String → String} {nodes : List Node}
    (ih : ∀ node ∈ nodes, ∀ {d : Descent} {text : String},
      node.list markup anchor d = .ok text → text.toList = (node.tokens anchor).flatMap spell)
    {d : Descent} {texts : List String} (hall : Node.listAll markup anchor d nodes = .ok texts) :
    texts.map String.toList = (Node.tokensAll anchor nodes).map fun part => part.flatMap spell := by
  induction nodes generalizing texts with
  | nil =>
    obtain rfl : [] = texts := Except.ok.inj hall
    rfl
  | cons node rest ihr =>
    rw [Node.listAll] at hall
    obtain ⟨text, htext, hall⟩ := Node.exists_of_bind_eq_ok hall
    obtain ⟨others, hothers, heq⟩ := Node.exists_of_bind_eq_ok hall
    obtain rfl : text :: others = texts := Except.ok.inj heq
    have hrest := ihr (fun other ho => ih other (by simp [ho])) hothers
    rw [List.map_cons, Node.tokensAll, List.map_cons, hrest, ih node (by simp) htext]

end Spelled

namespace Spells

variable {markup : Markup} {style : LinkStyle} {spell : Token → List Char}

/-- The text of a literal is escaped as a whole. -/
lemma eq_escape_literalContent {d : Descent} {casing : Casing} {content : String}
    {base : Option Base} {text : String}
    (hliteral : d.literalText markup casing content base = .ok text) :
    text = markup.escape (Node.literalContent casing content base) := by
  cases base with
  | none => exact (Except.ok.inj hliteral).symm
  | some base =>
    rw [Descent.literalText] at hliteral
    split at hliteral
    · next codes hcodes =>
      rw [Node.literalContent, hcodes]
      exact (Except.ok.inj hliteral).symm
    · exact absurd hliteral (by simp)

/-- A listing is its tokens, as the markup spells them. -/
theorem list (h : markup.Spells style spell) {anchor : String → String} {d : Descent}
    {node : Node} {text : String} (hlist : node.list markup anchor d = .ok text) :
    text.toList = (node.tokens anchor).flatMap spell := by
  induction node generalizing d text with
  | rule name definition ih =>
    have hbody := Node.of_descend_bind hlist
    simp at hbody
  | literal casing content base =>
    have hbody := Node.of_descend_bind hlist
    obtain ⟨literal, hliteral, rfl⟩ := Node.exists_of_map_eq_ok hbody
    rw [Node.tokens, flatMap_around, h.wrap, eq_escape_literalContent hliteral, h.escape]
    simp
  | range first last base =>
    have hbody := Node.of_descend_bind hlist
    obtain rfl := Except.ok.inj hbody
    rw [Node.tokens, flatMap_around, h.wrap, h.escape]
    simp
  | prose content =>
    have hbody := Node.of_descend_bind hlist
    obtain rfl := Except.ok.inj hbody
    rw [Node.tokens, flatMap_around, h.wrap, h.escape]
    simp
  | reference name =>
    have hbody := Node.of_descend_bind hlist
    obtain rfl := Except.ok.inj hbody
    rw [Node.tokens, h.refer]
  | concatenation elements ih =>
    have hbody := Node.of_descend_bind hlist
    obtain ⟨parts, hparts, heq⟩ := Node.exists_of_bind_eq_ok hbody
    obtain rfl := Except.ok.inj heq
    rw [Node.tokens, flatMap_around, h.wrap, flatMap_intercalate, ← listAll_spelled ih hparts,
      h.mark " " (by decide), String.toList_intercalate]
  | alternation choices ih =>
    have hbody := Node.of_descend_bind hlist
    obtain ⟨parts, hparts, heq⟩ := Node.exists_of_bind_eq_ok hbody
    obtain rfl := Except.ok.inj heq
    rw [Node.tokens, flatMap_around, h.wrap, flatMap_intercalate, ← listAll_spelled ih hparts,
      h.mark " / " (by decide), String.toList_intercalate]
  | group inner ih =>
    have hbody := Node.of_descend_bind hlist
    obtain ⟨part, hpart, heq⟩ := Node.exists_of_bind_eq_ok hbody
    obtain rfl := Except.ok.inj heq
    rw [Node.tokens, flatMap_around, h.wrap]
    simp [h.mark "(" (by decide), h.mark ")" (by decide), ih hpart]
  | repetition element bounds ih ihu =>
    rw [Node.list_repetition] at hlist
    have hbody := Node.of_descend_bind hlist
    rw [Node.tokens_repetition, flatMap_around]
    -- In brackets the element stands without its group, behind bounds it stands as it is.
    by_cases hoptional : bounds.isOptional = true
    · rw [if_pos hoptional] at hbody ⊢
      obtain ⟨part, hpart, heq⟩ := Node.exists_of_bind_eq_ok hbody
      obtain rfl := Except.ok.inj heq
      rw [h.wrap]
      simp [h.mark "[" (by decide), h.mark "]" (by decide), ihu hpart]
    · rw [if_neg hoptional] at hbody ⊢
      obtain ⟨part, hpart, heq⟩ := Node.exists_of_bind_eq_ok hbody
      obtain rfl := Except.ok.inj heq
      rw [h.wrap]
      simp [h.mark bounds.star bounds.isVerbatim_star, ih hpart]

end Spells

/-- The comment in front of the name of another grammar has nothing to escape. -/
lemma escapeHtml_comment (provenance : Provenance) :
    Text.escapeHtml ("; " ++ provenance.verb ++ " ") = "; " ++ provenance.verb ++ " " := by
  refine Text.escapeHtml_eq_self ?_
  cases provenance <;>
    · rw [Provenance.verb]
      decide

lemma escapeAttribute_styleClass (kind : Kind) :
    Text.escapeAttribute kind.styleClass = kind.styleClass := by
  refine Text.escapeAttribute_eq_self ?_
  cases kind with
  | literal casing => cases casing <;> decide
  | _ => decide

lemma toList_span (styleClass inner : String) : (span styleClass inner).toList =
    (Token.opening .span styleClass).chars ++ inner.toList ++ (Token.closing .span).chars := by
  show ("<span class='" ++ styleClass ++ "'>" ++ inner ++ "</span>").toList = _
  simp [Token.chars, Element.start, Element.stop, Element.quote]

lemma toList_link (href inner : String) : (link href inner).toList =
    (Token.opening .link href).chars ++ inner.toList ++ (Token.closing .link).chars := by
  show ("<a href=\"" ++ href ++ "\">" ++ inner ++ "</a>").toList = _
  simp [Token.chars, Element.start, Element.stop, Element.quote]

lemma toList_definitionAnchor (name : String) : (definitionAnchor name).toList =
    (Element.definition.around name [.text name]).flatMap fun token => token.escaped.chars := by
  rw [flatMap_around]
  simp [definitionAnchor, Token.escaped, Token.chars, Element.start, Element.stop, Element.quote]

/-- HTML writes the escaped tokens as they are. -/
theorem spells_html (style : LinkStyle) :
    (html style).Spells style fun token => token.escaped.chars where
  wrap kind inner := by
    rw [html, toList_span, Token.escaped, Token.escaped, escapeAttribute_styleClass]
  escape text := rfl
  declare name provenance := by
    cases hsource : provenance.source? with
    | none =>
      simp only [html, declareHtml, declarationTokens, hsource, toList_definitionAnchor]
    | some source =>
      have hclass : Text.escapeAttribute "comment" = "comment" :=
        Text.escapeAttribute_eq_self (by decide)
      have hline : Text.escapeHtml "\n" = "\n" := Text.escapeHtml_eq_self (by decide)
      simp only [html, declareHtml, declarationTokens, hsource, List.flatMap_append,
        List.flatMap_cons, List.flatMap_nil, flatMap_around, Token.escaped,
        escapeHtml_comment provenance, hclass, hline, String.toList_append, toList_span,
        toList_link, toList_definitionAnchor, Token.chars_text, List.append_assoc, List.append_nil]
  refer name target := by
    have hhash : Text.escapeAttribute "#" = "#" := Text.escapeAttribute_eq_self (by decide)
    rw [flatMap_around]
    simp only [html, toList_link, Token.escaped, Text.escapeAttribute_append, hhash,
      Token.chars_text, List.flatMap_cons, List.flatMap_nil, List.append_nil]
  mark text h := congrArg String.toList (Text.escapeHtml_eq_self h)

/-- Plain text leaves the tags out. -/
theorem spells_plain (style : LinkStyle) : plain.Spells style Token.content where
  wrap kind inner := by simp [plain, Token.content]
  escape text := rfl
  declare name provenance := by
    rw [plain, declarationTokens]
    cases hsource : provenance.source? with
    | none => simp [Element.around, Token.content, hsource]
    | some source => simp [Element.around, Token.content, hsource]
  refer name target := by simp [plain, Element.around, Token.content]
  mark text h := rfl

end Markup

namespace Listing

/-- What a markup makes of a rule is what it spells for the tokens of the rule. -/
theorem rule_spelled (listing : Listing) {style : LinkStyle} {spell : Token → List Char}
    (h : listing.markup.Spells style spell) {name : String} {definition : Node} {text : String}
    (hrule : listing.rule (.rule name definition) = .ok text) :
    text.toList = (ruleTokens style (listing.dependencies.provenance name)
      (anchorIn listing.grammar) name definition).flatMap spell := by
  rw [rule_eq] at hrule
  obtain ⟨body, hbody, heq⟩ := Node.exists_of_bind_eq_ok hrule
  obtain rfl := Except.ok.inj heq
  rw [ruleTokens, Markup.flatMap_around, h.wrap]
  simp [h.declare, h.mark " = " (by decide), h.list hbody]

end Listing

end Abnf
