import Abnf.Proofs.Anchors
import Abnf.Proofs.Cuts
import Abnf.Proofs.Expressions

/-!
# The blocks of a page

A page is made of listings in `pre` elements and of diagrams in `script` elements.  Nothing that the
names, texts and sources of a grammar are made of opens or closes such an element: in a listing `<`
begins the tag of a span, a link or a definition, and in the expression of a diagram it does not
occur (`notMem_script`).  Hence a page falls apart at the tags that it writes itself and nowhere
else, and each listing and each script can be cut out of it (`render_page`).
-/

namespace Abnf

/-- The expression of a diagram holds no `<`, whatever the texts of the diagram are. -/
lemma Diagram.notMem_script (diagram : Diagram) : '<' ∉ diagram.script.toList := by
  intro h
  have hinline := List.all_eq_true.1 diagram.all_script _ h
  exact absurd hinline (by decide)

/-! ## The tags of a listing -/

/-- No tag of a listing begins with one of the words. -/
structure AvoidsTags (words : List String) : Prop where
  /-- No opening tag does. -/
  opening (element : Element) (rest : List Char) :
    Text.beginsWith words (element.start.toList.tail ++ rest) = false
  /-- No closing tag does. -/
  closing (element : Element) (rest : List Char) :
    Text.beginsWith words (element.stop.toList.tail ++ rest) = false

open Text (Passes Opens Selects)

namespace AvoidsTags

variable {words : List String}

lemma passes_token (h : AvoidsTags words) (token : Token) : Passes words token.html := by
  cases token with
  | text content => exact .of_notMem fun hmem => (Text.mem_escapeHtml hmem).1 rfl
  | opening element value =>
    rw [html_opening]
    refine .of_tag (fun hmem => ne_of_mem_tagTail hmem rfl) fun rest => ?_
    rw [Element.tagTail, List.append_assoc]
    exact h.opening element _
  | closing element =>
    have hstop : (Token.closing element).html = '<' :: element.stop.toList.tail := by
      cases element <;> rfl
    have hmem : '<' ∉ element.stop.toList.tail := by cases element <;> decide
    rw [hstop]
    exact .of_tag hmem fun rest => h.closing element rest

/-- The HTML listing of a rule opens and closes spans, links and definitions only. -/
lemma passes_listing (h : AvoidsTags words) {listing : Listing} {style : LinkStyle} {name : String}
    {definition : Node} {text : String} (hmarkup : listing.markup = .html style)
    (htext : listing.rule (.rule name definition) = .ok text) : Passes words text.toList := by
  rw [Listing.toList_rule hmarkup htext]
  exact .flatMap fun token _ => h.passes_token token

lemma passes_rendered (h : AvoidsTags words) {g : Grammar} {d : Dependencies} {options : Options}
    {R : Rendering} (hR : g.render d options = .ok R) {rule : RenderedRule}
    (hrule : rule ∈ R.rules) : Passes words rule.text.toList := by
  obtain ⟨node, -, hnode⟩ := exists_of_mem_left (Grammar.forall₂_of_render hR).flip hrule
  obtain ⟨definition, -, -, htext, -⟩ := Renderer.of_node_eq_ok hnode
  exact h.passes_listing rfl htext

end AvoidsTags

/-! ## Pages -/

namespace Page

/-- What follows `<` where a listing or a script is opened or closed. -/
def tags : List String := ["pre", "/pre", "script", "/script"]

/-- What follows `<` where a script is opened or closed. -/
def scriptTags : List String := ["script>", "/script>"]

/-- What follows `<` where a listing is opened or closed. -/
def listingTags : List String := ["pre", "/pre"]

/-- The pieces of a page that is cut wherever a listing or a script is opened or closed; the first
piece is what stands before all of them. -/
def pieces (page : String) : List String :=
  let (before, pieces) := Text.cut tags page.toList
  (before :: pieces).map String.ofList

/-- What a script holds, for a piece that begins with its tag. -/
def script? (piece : List Char) : Option String :=
  (piece.dropPrefix? "<script>".toList).map String.ofList

/-- What the scripts of a page hold, when it is cut at their tags. -/
def scripts (page : String) : List String :=
  (Text.cut scriptTags page.toList).2.filterMap script?

/-- The attribute of a listing and what the listing holds, for a piece that begins with its tag. -/
def listing? (piece : List Char) : Option (String × String) := do
  let opened ← piece.dropPrefix? "<pre class=\"abnf\" data-rule=\"".toList
  let text ← (opened.dropWhile (· != '"')).dropPrefix? "\">".toList
  some (String.ofList (opened.takeWhile (· != '"')), String.ofList text)

/-- The attributes of the listings of a page and what they hold, when it is cut at their tags. -/
def listings (page : String) : List (String × String) :=
  (Text.cut listingTags page.toList).2.filterMap listing?

lemma avoidsTags_tags : AvoidsTags tags where
  opening element rest := by cases element <;> rfl
  closing element rest := by cases element <;> rfl

lemma avoidsTags_scriptTags : AvoidsTags scriptTags where
  opening element rest := by cases element <;> rfl
  closing element rest := by cases element <;> rfl

lemma avoidsTags_listingTags : AvoidsTags listingTags where
  opening element rest := by cases element <;> rfl
  closing element rest := by cases element <;> rfl

/-- A listing is read back from its piece, for no attribute holds a quote. -/
lemma listing?_append {value : List Char} (hvalue : '"' ∉ value) (text : List Char) :
    listing? ("<pre class=\"abnf\" data-rule=\"".toList ++ (value ++ ("\">".toList ++ text))) =
      some (String.ofList value, String.ofList text) := by
  -- The first quote behind the opening is the one that ends the attribute.
  have hne : ∀ c ∈ value, (c != '"') = true := by
    intro c hc
    rw [bne_iff_ne]
    rintro rfl
    exact hvalue hc
  have hquote : "\">".toList ++ text = '"' :: '>' :: text := by simp
  have hdrop : (value ++ '"' :: '>' :: text).dropWhile (· != '"') = '"' :: '>' :: text := by
    rw [List.dropWhile_append_of_pos hne, List.dropWhile_cons_of_neg (by simp)]
  have htake : (value ++ '"' :: '>' :: text).takeWhile (· != '"') = value := by
    rw [List.takeWhile_append_of_pos hne, List.takeWhile_cons_of_neg (by simp), List.append_nil]
  have hend : ('"' :: '>' :: text).dropPrefix? "\">".toList = some text :=
    hquote ▸ dropPrefix?_append _ text
  unfold listing?
  rw [dropPrefix?_append]
  show (Option.bind ((List.dropWhile _ _).dropPrefix? _) fun text => _) = _
  rw [hquote, hdrop, hend, htake]
  rfl

end Page

namespace RenderedRule

/-- The listing of a rule on a page: its tag with what it holds, and its end. -/
def listingPieces (rule : RenderedRule) : List String :=
  ["<pre class=\"abnf\" data-rule=\"" ++ Text.escapeAttribute rule.name ++ "\">" ++ rule.text,
    "</pre>\n"]

/-- The script of a rule on a page, if it has a diagram: its tag with what it holds, and its
end. -/
def scriptPieces (rule : RenderedRule) : List String :=
  match rule.diagram with
  | some d => ["<script>" ++ d.script ++ ".addTo();", "</script>\n"]
  | none => []

lemma listingBlock_eq_join (rule : RenderedRule) :
    rule.listingBlock = String.join rule.listingPieces := by
  rw [listingPieces, String.join_cons, String.join_cons, String.join_nil, String.append_empty]
  rfl

lemma scriptBlock_eq_join (rule : RenderedRule) :
    rule.scriptBlock = String.join rule.scriptPieces := by
  rw [scriptBlock, scriptPieces]
  cases rule.diagram with
  | none => rfl
  | some d =>
    have hend : (".addTo();</script>\n" : String) = ".addTo();" ++ "</script>\n" := by decide
    show "<script>" ++ d.script ++ ".addTo();</script>\n" =
      String.join ["<script>" ++ d.script ++ ".addTo();", "</script>\n"]
    rw [String.join_cons, String.join_cons, String.join_nil, String.append_empty, hend,
      String.append_assoc, String.append_assoc, String.append_assoc]

/-- The tag of a listing after its first character. -/
def listingTag (rule : RenderedRule) : List Char :=
  "pre class=\"abnf\" data-rule=\"".toList ++
    ((Text.escapeAttribute rule.name).toList ++ "\">".toList)

lemma notMem_listingTag (rule : RenderedRule) : '<' ∉ rule.listingTag := by
  intro hmem
  rcases List.mem_append.1 hmem with hopen | hrest
  · simp at hopen
  · rcases List.mem_append.1 hrest with hname | hend
    · exact (Text.mem_escapeAttribute hname).1 rfl
    · simp at hend

lemma toList_listingPiece (rule : RenderedRule) :
    ("<pre class=\"abnf\" data-rule=\"" ++ Text.escapeAttribute rule.name ++ "\">" ++
      rule.text).toList = '<' :: rule.listingTag ++ rule.text.toList := by
  unfold listingTag
  simp

lemma toList_listingBlock (rule : RenderedRule) : rule.listingBlock.toList =
    ('<' :: rule.listingTag ++ rule.text.toList) ++ "</pre>\n".toList := by
  rw [← toList_listingPiece, ← String.toList_append]
  rfl

/-- The tag of a script with what it holds, after its first character. -/
def scriptTag (d : Diagram) : List Char :=
  "script>".toList ++ (d.script.toList ++ ".addTo();".toList)

lemma notMem_scriptTag (d : Diagram) : '<' ∉ scriptTag d := by
  intro hmem
  rcases List.mem_append.1 hmem with hopen | hrest
  · simp at hopen
  · rcases List.mem_append.1 hrest with hscript | hend
    · exact d.notMem_script hscript
    · simp at hend

lemma toList_scriptPiece (d : Diagram) :
    ("<script>" ++ d.script ++ ".addTo();").toList = '<' :: scriptTag d := by
  unfold scriptTag
  simp

lemma toList_scriptBlock {rule : RenderedRule} {d : Diagram} (h : rule.diagram = some d) :
    rule.scriptBlock.toList = '<' :: scriptTag d ++ "</script>\n".toList := by
  unfold scriptBlock scriptTag
  simp [h]

lemma scriptBlock_of_none {rule : RenderedRule} (h : rule.diagram = none) :
    rule.scriptBlock = "" := by
  rw [scriptBlock, h]

/-! ### Where a page is cut -/

lemma opens_listingPieces {rule : RenderedRule} (htext : Passes Page.tags rule.text.toList) :
    ∀ piece ∈ rule.listingPieces, Opens Page.tags piece.toList := by
  have hopening : Opens Page.tags ('<' :: rule.listingTag) :=
    .of_tag rule.notMem_listingTag fun rest => rfl
  have hclosing : Opens Page.tags ('<' :: "/pre>\n".toList) := .of_tag (by simp) fun rest => rfl
  intro piece hpiece
  simp only [listingPieces, List.mem_cons, List.not_mem_nil, or_false] at hpiece
  rcases hpiece with rfl | rfl
  · rw [toList_listingPiece]
    exact hopening.append htext
  · exact hclosing

lemma opens_scriptPieces (rule : RenderedRule) :
    ∀ piece ∈ rule.scriptPieces, Opens Page.tags piece.toList := by
  have hclosing : Opens Page.tags ('<' :: "/script>\n".toList) := .of_tag (by simp) fun rest => rfl
  intro piece hpiece
  cases hdiagram : rule.diagram with
  | none => simp [scriptPieces, hdiagram] at hpiece
  | some d =>
    have hopening : Opens Page.tags ('<' :: scriptTag d) :=
      .of_tag (notMem_scriptTag d) fun rest => rfl
    simp only [scriptPieces, hdiagram, List.mem_cons, List.not_mem_nil, or_false] at hpiece
    rcases hpiece with rfl | rfl
    · rw [toList_scriptPiece]
      exact hopening
    · exact hclosing

/-- Cutting at the tags of scripts takes the script of a rule, if it has one. -/
lemma selects_script {rule : RenderedRule} (htext : Passes Page.scriptTags rule.text.toList) :
    Selects Page.scriptTags Page.script? rule.listingBlock.toList [] ∧
      Selects Page.scriptTags Page.script? rule.scriptBlock.toList
        (rule.diagram.map fun d => d.script ++ ".addTo();").toList := by
  constructor
  · have hopening : Passes Page.scriptTags ('<' :: rule.listingTag) :=
      .of_tag rule.notMem_listingTag fun rest => rfl
    have hclosing : Passes Page.scriptTags ('<' :: "/pre>\n".toList) :=
      .of_tag (by simp) fun rest => rfl
    rw [toList_listingBlock]
    exact .of_passes ((hopening.append htext).append hclosing)
  · cases hdiagram : rule.diagram with
    | none =>
      rw [scriptBlock_of_none hdiagram]
      exact .of_passes (.of_notMem (by simp))
    | some d =>
      have hopening : Opens Page.scriptTags ('<' :: scriptTag d) :=
        .of_tag (notMem_scriptTag d) fun rest => rfl
      have hclosing : Opens Page.scriptTags ('<' :: "/script>\n".toList) :=
        .of_tag (by simp) fun rest => rfl
      have htag : '<' :: scriptTag d = "<script>".toList ++ (d.script ++ ".addTo();").toList := by
        unfold scriptTag
        simp
      have htaken : Page.script? ('<' :: scriptTag d) = some (d.script ++ ".addTo();") := by
        unfold Page.script?
        rw [htag, dropPrefix?_append, Option.map_some, String.ofList_toList]
      rw [toList_scriptBlock hdiagram]
      exact .of_element hopening hclosing htaken fun rest => rfl

/-- Cutting at the tags of listings takes the listing of a rule. -/
lemma selects_listing {rule : RenderedRule} (htext : Passes Page.listingTags rule.text.toList) :
    Selects Page.listingTags Page.listing? rule.listingBlock.toList
        [(Text.escapeAttribute rule.name, rule.text)] ∧
      Selects Page.listingTags Page.listing? rule.scriptBlock.toList [] := by
  constructor
  · have hopening : Opens Page.listingTags ('<' :: rule.listingTag) :=
      .of_tag rule.notMem_listingTag fun rest => rfl
    have hclosing : Opens Page.listingTags ('<' :: "/pre>\n".toList) :=
      .of_tag (by simp) fun rest => rfl
    have hquote : '"' ∉ (Text.escapeAttribute rule.name).toList := fun hmem =>
      (Text.mem_escapeAttribute hmem).2.2.1 rfl
    have htag : '<' :: rule.listingTag ++ rule.text.toList =
        "<pre class=\"abnf\" data-rule=\"".toList ++
          ((Text.escapeAttribute rule.name).toList ++ ("\">".toList ++ rule.text.toList)) := by
      unfold listingTag
      simp
    have htaken : Page.listing? ('<' :: rule.listingTag ++ rule.text.toList) =
        some (Text.escapeAttribute rule.name, rule.text) := by
      rw [htag, Page.listing?_append hquote, String.ofList_toList, String.ofList_toList]
    rw [toList_listingBlock]
    exact .of_element (hopening.append htext) hclosing htaken fun rest => rfl
  · cases hdiagram : rule.diagram with
    | none =>
      rw [scriptBlock_of_none hdiagram]
      exact .of_passes (.of_notMem (by simp))
    | some d =>
      have hopening : Passes Page.listingTags ('<' :: scriptTag d) :=
        .of_tag (notMem_scriptTag d) fun rest => rfl
      have hclosing : Passes Page.listingTags ('<' :: "/script>\n".toList) :=
        .of_tag (by simp) fun rest => rfl
      rw [toList_scriptBlock hdiagram]
      exact .of_passes (hopening.append hclosing)

end RenderedRule

namespace Rendering

variable {R : Rendering}

/-- The pieces of a page in order. -/
def pieces (R : Rendering) : List String :=
  match R.layout with
  | .interleaved => R.rules.flatMap fun rule => rule.listingPieces ++ rule.scriptPieces
  | .grouped =>
    R.rules.flatMap RenderedRule.listingPieces ++ R.rules.flatMap RenderedRule.scriptPieces

lemma join_flatMap {α : Type} (f : α → List String) (xs : List α) :
    String.join (xs.flatMap f) = String.join (xs.map fun x => String.join (f x)) := by
  induction xs with
  | nil => rfl
  | cons x xs ih => rw [List.flatMap_cons, String.join_append, ih, List.map_cons, String.join_cons]

/-- A page is its pieces, one after the other. -/
lemma html_eq_join (R : Rendering) : R.html = String.join R.pieces := by
  have hlisting : RenderedRule.listingBlock = fun rule => String.join rule.listingPieces :=
    funext RenderedRule.listingBlock_eq_join
  have hscript : RenderedRule.scriptBlock = fun rule => String.join rule.scriptPieces :=
    funext RenderedRule.scriptBlock_eq_join
  rw [html, pieces]
  cases R.layout with
  | interleaved => simp only [hlisting, hscript, join_flatMap, String.join_append]
  | grouped => simp only [hlisting, hscript, join_flatMap, String.join_append]

lemma exists_of_mem_pieces {piece : String} (h : piece ∈ R.pieces) :
    ∃ rule ∈ R.rules, piece ∈ rule.listingPieces ∨ piece ∈ rule.scriptPieces := by
  rw [pieces] at h
  cases hlayout : R.layout with
  | interleaved =>
    rw [hlayout] at h
    obtain ⟨rule, hrule, hpiece⟩ := List.mem_flatMap.1 h
    exact ⟨rule, hrule, List.mem_append.1 hpiece⟩
  | grouped =>
    rw [hlayout] at h
    rcases List.mem_append.1 h with hlisting | hscript
    · obtain ⟨rule, hrule, hpiece⟩ := List.mem_flatMap.1 hlisting
      exact ⟨rule, hrule, .inl hpiece⟩
    · obtain ⟨rule, hrule, hpiece⟩ := List.mem_flatMap.1 hscript
      exact ⟨rule, hrule, .inr hpiece⟩

/-- A page is cut into the pieces that it is made of. -/
theorem pieces_html (h : ∀ rule ∈ R.rules, Passes Page.tags rule.text.toList) :
    Page.pieces R.html = "" :: R.pieces := by
  have hopens : ∀ piece ∈ R.pieces.map String.toList, Opens Page.tags piece := by
    intro piece hpiece
    obtain ⟨shown, hshown, rfl⟩ := List.mem_map.1 hpiece
    obtain ⟨rule, hrule, hlisting | hscript⟩ := exists_of_mem_pieces hshown
    · exact RenderedRule.opens_listingPieces (h rule hrule) shown hlisting
    · exact rule.opens_scriptPieces shown hscript
  rw [html_eq_join, Page.pieces, String.toList_join, List.flatMap_def, Text.cut_flatten hopens]
  simp

/-- What is taken from a page is what is taken from its blocks. -/
lemma selects_html {α : Type} {words : List String} {select : List Char → Option α}
    {listed drawn : RenderedRule → List α}
    (hlisting : ∀ rule ∈ R.rules, Selects words select rule.listingBlock.toList (listed rule))
    (hscript : ∀ rule ∈ R.rules, Selects words select rule.scriptBlock.toList (drawn rule)) :
    Selects words select R.html.toList
      (match R.layout with
      | .interleaved => R.rules.flatMap fun rule => listed rule ++ drawn rule
      | .grouped => R.rules.flatMap listed ++ R.rules.flatMap drawn) := by
  rw [html]
  cases R.layout with
  | interleaved =>
    rw [String.toList_join, List.flatMap_map]
    refine .flatMap fun rule hrule => ?_
    rw [String.toList_append]
    exact (hlisting rule hrule).append (hscript rule hrule)
  | grouped =>
    rw [String.toList_append, String.toList_join, String.toList_join, List.flatMap_map,
      List.flatMap_map]
    exact (Selects.flatMap hlisting).append (.flatMap hscript)

/-- The scripts of a page are those of its diagrams. -/
theorem scripts_html (h : ∀ rule ∈ R.rules, Passes Page.scriptTags rule.text.toList) :
    Page.scripts R.html = R.diagrams.map fun d => d.script ++ ".addTo();" := by
  have hselects := selects_html
    (fun rule hrule => (RenderedRule.selects_script (h rule hrule)).1)
    (fun rule hrule => (RenderedRule.selects_script (h rule hrule)).2)
  have hdiagrams : (R.rules.flatMap fun rule =>
      (rule.diagram.map fun d => d.script ++ ".addTo();").toList) =
      R.diagrams.map fun d => d.script ++ ".addTo();" := by
    rw [diagrams, List.map_filterMap, List.filterMap_eq_flatMap_toList]
  rw [Page.scripts, hselects.filterMap_eq, ← hdiagrams]
  cases R.layout <;> simp

/-- The listings of a page are those of its rules. -/
theorem listings_html (h : ∀ rule ∈ R.rules, Passes Page.listingTags rule.text.toList) :
    Page.listings R.html = R.rules.map fun rule => (Text.escapeAttribute rule.name, rule.text) := by
  have hselects := selects_html
    (fun rule hrule => (RenderedRule.selects_listing (h rule hrule)).1)
    (fun rule hrule => (RenderedRule.selects_listing (h rule hrule)).2)
  rw [Page.listings, hselects.filterMap_eq]
  cases R.layout <;> simp [List.map_eq_flatMap]

end Rendering

namespace Grammar

/-- The layout of a page has no part in what is rendered. -/
lemma render_layout {g : Grammar} {d : Dependencies} {options : Options} {R : Rendering}
    (h : g.render d options = .ok R) (layout : Layout) :
    g.render d { options with layout := layout } = .ok { R with layout := layout } := by
  rw [render, Renderer.all] at h ⊢
  obtain ⟨rules, hrules, heq⟩ := Node.exists_of_bind_eq_ok h
  obtain rfl := Except.ok.inj heq
  have hrules' : g.nodes.mapM ((Renderer.mk g d { options with layout := layout }).nodeWith
      (Renderer.mk g d { options with layout := layout }).drawing (.html options.links)) =
      .ok rules := hrules
  rw [hrules']
  rfl

lemma layout_of_render {g : Grammar} {d : Dependencies} {options : Options} {R : Rendering}
    (h : g.render d options = .ok R) : R.layout = options.layout := by
  rw [render, Renderer.all] at h
  obtain ⟨rules, -, heq⟩ := Node.exists_of_bind_eq_ok h
  obtain rfl := Except.ok.inj heq
  rfl

/-- The rules that are shown are those that are defined, in order. -/
lemma names_of_render {g : Grammar} {d : Dependencies} {options : Options} {R : Rendering}
    (h : g.render d options = .ok R) :
    g.nodes.map Node.ruleName = R.rules.map fun rule => some rule.name := by
  have hrules := (forall₂_of_render h).imp fun node rule hnode =>
    show node.ruleName = some rule.name by
      obtain ⟨definition, hdefinition, -⟩ := Renderer.of_node_eq_ok hnode
      rw [hdefinition, Node.ruleName]
  exact List.forall₂_eq_eq_eq ▸ (List.forall₂_map_left_iff.2 (List.forall₂_map_right_iff.2 hrules))

/-- **A page falls apart at its own tags.**  When a grammar has been rendered, its page is cut where
a listing or a script is opened or closed, and nowhere else: the pieces are, rule by rule, the
listing and its end and the script, if there is one, and its end; or first all listings and then all
scripts.  Cut at the tags of scripts, the page gives the expression of every diagram in order; cut
at those of listings, the name and the listing of every rule in the order of the definitions.  With
another layout the page holds the same scripts and listings. -/
theorem render_page {g : Grammar} {d : Dependencies} {options : Options} {R : Rendering}
    (h : g.render d options = .ok R) :
    (options.layout = .interleaved → Page.pieces R.html =
      "" :: R.rules.flatMap fun rule => rule.listingPieces ++ rule.scriptPieces) ∧
    (options.layout = .grouped → Page.pieces R.html =
      "" :: (R.rules.flatMap RenderedRule.listingPieces ++
        R.rules.flatMap RenderedRule.scriptPieces)) ∧
    Page.scripts R.html = R.diagrams.map (fun diagram => diagram.script ++ ".addTo();") ∧
    Page.listings R.html =
      R.rules.map (fun rule => (Text.escapeAttribute rule.name, rule.text)) ∧
    g.nodes.map Node.ruleName = R.rules.map (fun rule => some rule.name) ∧
    ∀ layout, g.render d { options with layout := layout } = .ok { R with layout := layout } ∧
      Page.scripts ({ R with layout := layout } : Rendering).html = Page.scripts R.html ∧
      Page.listings ({ R with layout := layout } : Rendering).html = Page.listings R.html := by
  have hlayout := layout_of_render h
  have hpieces := Rendering.pieces_html fun rule hrule =>
    Page.avoidsTags_tags.passes_rendered h hrule
  have hscripts := Rendering.scripts_html fun rule hrule =>
    Page.avoidsTags_scriptTags.passes_rendered h hrule
  have hlistings := Rendering.listings_html fun rule hrule =>
    Page.avoidsTags_listingTags.passes_rendered h hrule
  refine ⟨?_, ?_, hscripts, hlistings, names_of_render h, ?_⟩
  · intro hoption
    rw [hpieces, Rendering.pieces, hlayout, hoption]
  · intro hoption
    rw [hpieces, Rendering.pieces, hlayout, hoption]
  · intro layout
    have hother := render_layout h layout
    have hscripts' := Rendering.scripts_html fun rule hrule =>
      Page.avoidsTags_scriptTags.passes_rendered hother hrule
    have hlistings' := Rendering.listings_html fun rule hrule =>
      Page.avoidsTags_listingTags.passes_rendered hother hrule
    exact ⟨hother, hscripts'.trans hscripts.symm, hlistings'.trans hlistings.symm⟩

/-- Names and texts that would close a listing and a script and open others. -/
def closing : Grammar :=
  ⟨⟨[("a", .rule "</pre>" (.concatenation
        [.literal .insensitive "</script><script>" none, .reference "b"])),
     ("b", .rule "b" (.prose "\"><pre>"))], by decide⟩, []⟩

/-- On the page of these rules there are two listings with two scripts behind them. -/
theorem render_page_closing :
    ∃ R, closing.render (Dependencies.none.addImport "b" "<script>")
        { diagrams := .always, layout := .grouped } = .ok R ∧
      Page.pieces R.html = "" :: (R.rules.flatMap RenderedRule.listingPieces ++
        R.rules.flatMap RenderedRule.scriptPieces) ∧
      (Page.listings R.html).map Prod.fst = ["&lt;/pre&gt;", "b"] ∧
      Page.scripts R.html = R.diagrams.map fun diagram => diagram.script ++ ".addTo();" := by
  obtain ⟨R, hR⟩ := failure_eq_none_iff.1
    (((Renderer.mk closing (Dependencies.none.addImport "b" "<script>")
      { diagrams := .always, layout := .grouped }).selected_failure none (.html .rfcNumber)).trans
        (by decide))
  have hrender : closing.render (Dependencies.none.addImport "b" "<script>")
      { diagrams := .always, layout := .grouped } = .ok R := hR
  obtain ⟨-, hgrouped, hscripts, hlistings, hnames, -⟩ := render_page hrender
  have hshown : R.rules.map RenderedRule.name = ["</pre>", "b"] := by
    have hsome : (R.rules.map RenderedRule.name).map some = ["</pre>", "b"].map some := by
      rw [List.map_map]
      exact hnames.symm
    exact List.map_injective_iff.2 (fun _ _ => Option.some.inj) hsome
  have hattributes : R.rules.map (fun rule => Text.escapeAttribute rule.name) =
      (R.rules.map RenderedRule.name).map Text.escapeAttribute := by rw [List.map_map]; rfl
  refine ⟨R, hrender, hgrouped rfl, ?_, hscripts⟩
  rw [hlistings, List.map_map]
  refine hattributes.trans ?_
  rw [hshown]
  decide

end Grammar

end Abnf
