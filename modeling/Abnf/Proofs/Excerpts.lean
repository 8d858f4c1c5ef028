import Abnf.Proofs.Nesting
import Abnf.Proofs.Subtrees

/-!
# What can be cut out of a listing

`excerpts` cuts a text wherever a certain mark occurs: from there up to the next closing mark.  With
the first characters of a tag as the mark, this finds the elements of an HTML text without any trust
in its structure.  A piece of text contributes certain excerpts if it does so whatever follows it
(`Contributes`); contributions add up.  Since `<` occurs in a listing only where a tag begins, texts
contribute nothing to the elements, and each tag what it is.
-/

namespace Abnf

namespace Text

/-- A text up to the first place where `stop` occurs, including it. -/
def through (stop : List Char) : List Char → List Char
  | [] => []
  | c :: rest => if stop.isPrefixOf (c :: rest) then stop else c :: through stop rest

/-- From every place where `start` occurs, the text up to the next `stop`. -/
def excerpts (start stop : List Char) : List Char → List (List Char)
  | [] => []
  | c :: rest =>
    if start.isPrefixOf (c :: rest) then through stop (c :: rest) :: excerpts start stop rest
    else excerpts start stop rest

lemma through_append {mark : Char} {stop piece : List Char} (h : ∀ c ∈ piece, c ≠ mark)
    (rest : List Char) :
    through (mark :: stop) (piece ++ rest) = piece ++ through (mark :: stop) rest := by
  induction piece with
  | nil => rfl
  | cons c piece ih =>
    have hc : mark ≠ c := (h c (by simp)).symm
    have hpiece := ih fun d hd => h d (by simp [hd])
    simp [through, hc, hpiece]

lemma through_stop (mark : Char) (stop rest : List Char) :
    through (mark :: stop) (mark :: stop ++ rest) = mark :: stop := by
  rw [List.cons_append, through, if_pos]
  exact List.isPrefixOf_iff_prefix.2 (List.prefix_append (mark :: stop) rest)

/-- The excerpts that a piece of text contributes, whatever follows it. -/
def Contributes (start stop piece : List Char) (found : List (List Char)) : Prop :=
  ∀ rest, excerpts start stop (piece ++ rest) = found ++ excerpts start stop rest

namespace Contributes

variable {start stop piece other : List Char} {found more : List (List Char)}

lemma excerpts_eq (h : Contributes start stop piece found) :
    excerpts start stop piece = found := by
  simpa [excerpts] using h []

lemma nil : Contributes start stop [] [] := fun _ => rfl

lemma append (h : Contributes start stop piece found) (hother : Contributes start stop other more) :
    Contributes start stop (piece ++ other) (found ++ more) := by
  intro rest
  rw [List.append_assoc, h, hother, List.append_assoc]

lemma intercalate {α : Type} {write : α → List Char} {cut : α → List (List Char)} {xs : List α}
    (h : ∀ x ∈ xs, Contributes start stop (write x) (cut x))
    (hother : Contributes start stop other []) :
    Contributes start stop (other.intercalate (xs.map write)) (xs.flatMap cut) := by
  induction xs with
  | nil => exact nil
  | cons x xs ih =>
    have hpiece := h x (by simp)
    have hrest := ih fun y hy => h y (by simp [hy])
    cases xs with
    | nil => simpa using hpiece
    | cons y xs =>
      rw [List.map_cons, List.map_cons, List.intercalate_cons_cons, List.flatMap_cons]
      simpa using (hpiece.append hother).append hrest

/-- Where the first character of the mark does not occur, nothing can be cut out. -/
lemma of_notMem {mark : Char} (h : ∀ c ∈ piece, c ≠ mark) :
    Contributes (mark :: start) stop piece [] := by
  intro rest
  induction piece with
  | nil => rfl
  | cons c piece ih =>
    have hc : mark ≠ c := (h c (by simp)).symm
    have hpiece := ih fun d hd => h d (by simp [hd])
    simpa [excerpts, hc] using hpiece

/-- A piece with the first character of the mark in front, but not the mark. -/
lemma of_noStart {mark : Char} (h : ∀ c ∈ piece, c ≠ mark)
    (hstart : ∀ rest, start.isPrefixOf (piece ++ rest) = false) :
    Contributes (mark :: start) stop (mark :: piece) [] := by
  intro rest
  have hpiece : excerpts (mark :: start) stop (piece ++ rest) =
      excerpts (mark :: start) stop rest := of_notMem h rest
  simpa [excerpts, hstart rest] using hpiece

/-- A piece that begins with the mark and holds its first character nowhere else contributes what
lies between its beginning and the closing mark. -/
lemma excerpts_of_prefix {mark : Char} (h : ∀ c ∈ piece, c ≠ mark) (hstart : start <+: piece)
    (rest : List Char) :
    excerpts (mark :: start) stop (mark :: piece ++ rest) =
      through stop (mark :: piece ++ rest) :: excerpts (mark :: start) stop rest := by
  have hprefix : (mark :: start).isPrefixOf (mark :: (piece ++ rest)) = true :=
    List.isPrefixOf_iff_prefix.2
      ((List.prefix_cons_inj mark).2 (hstart.trans (List.prefix_append piece rest)))
  have hpiece : excerpts (mark :: start) stop (piece ++ rest) =
      excerpts (mark :: start) stop rest := of_notMem h rest
  rw [List.cons_append, excerpts, if_pos hprefix, hpiece]

end Contributes

end Text

/-! ## Tags -/

/-- How HTML writes a token. -/
def Token.html (token : Token) : List Char := token.escaped.chars

/-- An opening tag in HTML after its first character. -/
def Element.tagTail (element : Element) (value : String) : List Char :=
  element.start.toList.tail ++ ((Text.escapeAttribute value).toList ++ [element.quote, '>'])

lemma html_opening (element : Element) (value : String) :
    (Token.opening element value).html = '<' :: element.tagTail value := by
  cases element <;> simp [Token.html, Token.escaped, Token.chars, Element.tagTail, Element.start]

lemma ne_of_all {cs : List Char} {d : Char} (h : cs.all (· != d) = true) : ∀ c ∈ cs, c ≠ d :=
  fun c hc => bne_iff_ne.1 (List.all_eq_true.1 h c hc)

lemma ne_of_mem_tagTail {element : Element} {value : String} {c : Char}
    (h : c ∈ element.tagTail value) : c ≠ '<' := by
  rcases List.mem_append.1 h with hname | hrest
  · have hall : (element.start.toList.tail.all (· != '<')) = true := by cases element <;> decide
    exact ne_of_all hall c hname
  · rcases List.mem_append.1 hrest with hvalue | hend
    · exact (Text.mem_escapeAttribute hvalue).1
    · have hall : ([element.quote, '>'].all (· != '<')) = true := by cases element <;> decide
      exact ne_of_all hall c hend

/-- What follows `<` where neither a span nor a closing tag begins. -/
structure PassesSpans (word : List Char) : Prop where
  /-- No span begins like this. -/
  noSpan (rest : List Char) : word.isPrefixOf (Element.span.start.toList.tail ++ rest) = false
  /-- No closing tag begins like this. -/
  noClosing (rest : List Char) : word.isPrefixOf ('/' :: rest) = false

namespace PassesSpans

open Text (Contributes)

variable {word stop : List Char}

lemma text (content : String) : Contributes ('<' :: word) stop (Token.text content).html [] :=
  .of_notMem fun _ hc => (Text.mem_escapeHtml hc).1

lemma closingTag (h : PassesSpans word) (element : Element) :
    Contributes ('<' :: word) stop (Token.closing element).html [] := by
  cases element <;> exact .of_noStart (ne_of_all (by decide)) fun rest => h.noClosing _

lemma openingSpan (h : PassesSpans word) (value : String) :
    Contributes ('<' :: word) stop (Token.opening .span value).html [] := by
  rw [html_opening]
  refine .of_noStart (fun c hc => ne_of_mem_tagTail hc) fun rest => ?_
  rw [Element.tagTail, List.append_assoc]
  exact h.noSpan _

/-- A span contributes what its contents do. -/
lemma span (h : PassesSpans word) (value : String) {inner : List Token}
    {found : List (List Char)}
    (hinner : Contributes ('<' :: word) stop (inner.flatMap Token.html) found) :
    Contributes ('<' :: word) stop ((Element.span.around value inner).flatMap Token.html)
      found := by
  rw [Markup.flatMap_around]
  simpa using ((h.openingSpan value).append hinner).append (h.closingTag .span)

variable {anchor : String → String} {found : String → List (List Char)}

/-- The listing of a definition contributes what the links of its references do. -/
theorem tokens (h : PassesSpans word)
    (hlink : ∀ name, Contributes ('<' :: word) stop
      ((Element.link.around ("#" ++ anchor name) [.text name]).flatMap Token.html) (found name))
    {node : Node} (hrules : ∀ name definition, .rule name definition ∉ node.subtrees) :
    Contributes ('<' :: word) stop ((node.tokens anchor).flatMap Token.html)
      (node.references.flatMap found) := by
  have hall : ∀ {nodes : List Node} (separator : String), (∀ node ∈ nodes,
      Contributes ('<' :: word) stop ((node.tokens anchor).flatMap Token.html)
        (node.references.flatMap found)) →
      Contributes ('<' :: word) stop
        (([Token.text separator].intercalate (Node.tokensAll anchor nodes)).flatMap Token.html)
        ((Node.referencesAll nodes).flatMap found) := by
    intro nodes separator ih
    rw [Markup.flatMap_intercalate, Node.tokensAll_eq_map, List.map_map,
      Node.referencesAll_eq_flatMap, List.flatMap_assoc]
    exact .intercalate ih (text separator)
  have hbelow : ∀ {node child : Node}, (∀ name definition, .rule name definition ∉ node.subtrees) →
      child ∈ node.children → ∀ name definition, .rule name definition ∉ child.subtrees :=
    fun h hchild name definition hmem => h name definition (Node.mem_subtrees_of_child hchild hmem)
  induction node with
  | rule name definition ih => exact absurd (Node.self_mem_subtrees _) (hrules name definition)
  | literal casing content base => exact h.span _ (by simpa [Node.references] using text _)
  | range first last base => exact h.span _ (by simpa [Node.references] using text _)
  | prose content => exact h.span _ (by simpa [Node.references] using text _)
  | reference name => simpa [Node.references, Node.tokens] using hlink name
  | concatenation elements ih =>
    exact h.span _ (hall " " fun element he => ih element he (hbelow hrules he))
  | alternation choices ih =>
    exact h.span _ (hall " / " fun choice hc => ih choice hc (hbelow hrules hc))
  | group inner ih =>
    have hinner := ih (hbelow hrules (by simp [Node.children]))
    refine h.span _ ?_
    simpa [Node.references] using ((text "(").append hinner).append (text ")")
  | repetition element bounds ih ihu =>
    have hmem : element ∈ (Node.repetition element bounds).children := by simp [Node.children]
    have helement := hbelow hrules hmem
    have hunwrapped : element.unwrapped.references = element.references := by
      cases element <;> rfl
    rw [Node.tokens_repetition, Node.references]
    refine h.span _ ?_
    split
    · have hinner := ihu fun name definition hmem =>
        helement name definition (Node.mem_subtrees_of_unwrapped hmem)
      rw [hunwrapped] at hinner
      simpa using ((text "[").append hinner).append (text "]")
    · simpa using (text bounds.star).append (ih helement)

end PassesSpans

end Abnf
