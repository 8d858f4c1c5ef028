import Abnf.Proofs.Json.Scalars
import Abnf.Rendering.Basic
import Abnf.Rendering.Diagnostic

/-!
# Reading the expressions of diagrams

The expression of a diagram is made of nested calls whose arguments are expressions, string
literals, a number or a link.  `read?` reads such an expression back: it takes the arguments of a
call one after the other and then looks at the name of the function.  What is written for a diagram
is read as that diagram (`reads_script`), and it holds neither `<` nor a character that would end a
line, so that the script of a rendering falls into one expression for each diagram
(`script_decodes`).
-/

namespace Abnf

/-! ## Characters of an expression -/

namespace Text

/-- Whether a character can stand on a line of a script element: it is neither a control character
nor the first character of a tag. -/
def isInline (c : Char) : Bool := c != '<' && decide (32 ≤ c.toNat)

/-- How a character is written inside a string literal of a script. -/
def scriptChar (c : Char) : List Char :=
  if c = '<' then ['\\', 'u', '0', '0', '3', 'c'] else literalChar c

lemma isInline_hexDigit {n : Nat} (h : n < 16) : isInline (hexDigit n) = true := by
  have hall : ∀ n < 16, isInline (hexDigit n) = true := by decide
  exact hall n h

/-- Escapes are made of characters that need no escaping. -/
lemma all_literalChar {c : Char} (h : c ≠ '<') : (literalChar c).all isInline = true := by
  unfold literalChar
  split_ifs with hquote hslash hback htab hline hform hreturn hcontrol
  · decide
  · decide
  · decide
  · decide
  · decide
  · decide
  · decide
  · have hhigh : c.toNat / 16 < 16 := by omega
    have hlow : c.toNat % 16 < 16 := by omega
    simp [isInline_hexDigit hhigh, isInline_hexDigit hlow]
    decide
  · simp [isInline, h, Nat.not_lt.1 hcontrol]

lemma all_scriptChar (c : Char) : (scriptChar c).all isInline = true := by
  unfold scriptChar
  split_ifs with hlt
  · decide
  · exact all_literalChar hlt

/-- The replacement that follows quoting can be made along with it. -/
lemma flatMap_literalChar (c : Char) : ((literalChar c).flatMap fun d =>
    if d = '<' then ['\\', 'u', '0', '0', '3', 'c'] else [d]) = scriptChar c := by
  unfold scriptChar
  split_ifs with hlt
  · subst hlt
    rfl
  · have hself : ∀ d ∈ literalChar c,
        (if d = '<' then ['\\', 'u', '0', '0', '3', 'c'] else [d]) = [d] := by
      intro d hd
      have hinline := List.all_eq_true.1 (all_literalChar hlt) d hd
      refine if_neg ?_
      rintro rfl
      exact absurd hinline (by decide)
    rw [List.flatMap_congr hself, List.flatMap_singleton']

/-- What is written for a character is read as that character, whatever follows. -/
lemma literalTail_scriptChar (c : Char) (read : List Char) (place : Json.Position)
    (rest : List Char) :
    Json.Reader.literalTail read place 0 (scriptChar c ++ rest) =
      Json.Reader.literalTail (c :: read) (place.afterAll (scriptChar c)) 0 rest := by
  unfold scriptChar
  split_ifs with hlt
  · subst hlt
    rfl
  · exact Json.Reader.literalTail_char c read place rest

/-- A string literal of a script is written character by character. -/
lemma toList_quoteForScript (text : String) :
    (quoteForScript text).toList = '"' :: (text.toList.flatMap scriptChar ++ ['"']) := by
  have hescape : "\\u003c".toList = ['\\', 'u', '0', '0', '3', 'c'] := by decide
  have hquote : ('"' : Char) ≠ '<' := by decide
  unfold quoteForScript replaceChar
  rw [toList_expand, toList_quote, hescape, List.flatMap_cons, List.flatMap_append,
    List.flatMap_assoc, List.flatMap_singleton, if_neg hquote,
    List.flatMap_congr fun c _ => flatMap_literalChar c]
  rfl

lemma all_quoteForScript (text : String) : (quoteForScript text).toList.all isInline = true := by
  rw [toList_quoteForScript]
  have hchars : (text.toList.flatMap scriptChar).all isInline = true := by
    rw [List.all_flatMap]
    exact List.all_eq_true.2 fun c _ => all_scriptChar c
  simp [hchars]
  decide

end Text

namespace Diagram

lemma toList_call (shape : String) (arguments : List String) :
    (call shape arguments).toList = shape.toList ++
      '(' :: ((", ".toList).intercalate (arguments.map String.toList) ++ [')']) := by
  unfold call
  simp only [String.toList_append, String.toList_intercalate, List.append_assoc]
  rfl

lemma all_intercalate {p : Char → Bool} {separator : List Char} {texts : List (List Char)}
    (hseparator : separator.all p = true) (h : ∀ text ∈ texts, text.all p = true) :
    (separator.intercalate texts).all p = true := by
  induction texts with
  | nil => rfl
  | cons text rest ih =>
    have htext := h text (by simp)
    have hrest := ih fun other ho => h other (by simp [ho])
    cases rest with
    | nil => simpa using htext
    | cons next others =>
      rw [List.intercalate_cons_cons, List.all_append, List.all_append, htext, hseparator, hrest]
      rfl

lemma all_call {shape : String} {arguments : List String}
    (hshape : shape.toList.all Text.isInline = true)
    (h : ∀ argument ∈ arguments, argument.toList.all Text.isInline = true) :
    (call shape arguments).toList.all Text.isInline = true := by
  have harguments : ((", ".toList).intercalate (arguments.map String.toList)).all Text.isInline =
      true := by
    refine all_intercalate (by decide) ?_
    simpa only [List.forall_mem_map] using h
  rw [toList_call, List.all_append, List.all_cons, List.all_append, hshape, harguments]
  decide

/-- The digits of a number can stand on a line of a script. -/
lemma all_toString (n : Nat) : (toString n).toList.all Text.isInline = true := by
  rw [List.all_eq_true]
  intro c hc
  exact Base.forall_digit (p := fun c => Text.isInline c = true) (by decide)
    (Base.isSome_digit?_of_mem_toString hc)

mutual

/-- The expression of a diagram can stand on a line of a script, whatever the texts of the diagram
are. -/
theorem all_script (diagram : Diagram) : diagram.script.toList.all Text.isInline = true := by
  match diagram with
  | .diagram items => exact all_call (by decide) (all_scripts items)
  | .complexDiagram items => exact all_call (by decide) (all_scripts items)
  | .terminal text =>
    exact all_call (by decide) (List.forall_mem_singleton.2 (Text.all_quoteForScript text))
  | .nonTerminal name href =>
    have hname := Text.all_quoteForScript name
    have hhref : ("\x7bhref: " ++ Text.quoteForScript href ++ "\x7d").toList.all Text.isInline =
        true := by
      rw [String.toList_append, String.toList_append, List.all_append, List.all_append,
        Text.all_quoteForScript href]
      decide
    exact all_call (by decide)
      (List.forall_mem_cons.2 ⟨hname, List.forall_mem_singleton.2 hhref⟩)
  | .choice default branches =>
    exact all_call (by decide) (List.forall_mem_cons.2 ⟨all_toString default, all_scripts branches⟩)
  | .sequence items => exact all_call (by decide) (all_scripts items)
  | .group item => exact all_call (by decide) (List.forall_mem_singleton.2 (all_script item))
  | .optional item => exact all_call (by decide) (List.forall_mem_singleton.2 (all_script item))
  | .zeroOrMore item label =>
    have hitem := all_script item
    have hlabel := all_script label
    exact all_call (by decide)
      (List.forall_mem_cons.2 ⟨hitem, List.forall_mem_singleton.2 hlabel⟩)
  | .oneOrMore item label =>
    have hitem := all_script item
    have hlabel := all_script label
    exact all_call (by decide)
      (List.forall_mem_cons.2 ⟨hitem, List.forall_mem_singleton.2 hlabel⟩)
  | .comment text =>
    exact all_call (by decide) (List.forall_mem_singleton.2 (Text.all_quoteForScript text))

theorem all_scripts (diagrams : List Diagram) :
    ∀ script ∈ scripts diagrams, script.toList.all Text.isInline = true := by
  match diagrams with
  | [] => simp
  | first :: rest =>
    have hfirst := all_script first
    have hrest := all_scripts rest
    exact List.forall_mem_cons.2 ⟨hfirst, hrest⟩

end

/-! ## Reading an expression -/

/-- What can be handed to a function. -/
inductive Argument where
  /-- A part of a diagram. -/
  | diagram (part : Diagram)
  /-- A string literal. -/
  | text (content : String)
  /-- A number. -/
  | number (value : Nat)
  /-- A link. -/
  | link (href : String)

/-- The part of a diagram that is handed to a function. -/
def Argument.diagram? : Argument → Option Diagram
  | .diagram part => some part
  | _ => none

/-- What a function makes of its arguments. -/
def build (shape : String) (arguments : List Argument) : Option Diagram :=
  match shape, arguments with
  | "Diagram", items => .diagram <$> items.mapM Argument.diagram?
  | "ComplexDiagram", items => .complexDiagram <$> items.mapM Argument.diagram?
  | "Terminal", [.text text] => some (.terminal text)
  | "NonTerminal", [.text name, .link href] => some (.nonTerminal name href)
  | "Choice", .number default :: branches => .choice default <$> branches.mapM Argument.diagram?
  | "Sequence", items => .sequence <$> items.mapM Argument.diagram?
  | "Group", [.diagram item] => some (.group item)
  | "Optional", [.diagram item] => some (.optional item)
  | "ZeroOrMore", [.diagram item, .diagram label] => some (.zeroOrMore item label)
  | "OneOrMore", [.diagram item, .diagram label] => some (.oneOrMore item label)
  | "Comment", [.text text] => some (.comment text)
  | _, _ => none

/-- Reads a string literal, and gives what follows it. -/
def readText (cs : List Char) : Option (String × List Char) :=
  match Json.Reader.literal ⟨.start, cs⟩ with
  | .ok text next => some (text, next.rest)
  | _ => none

/-- Reads a number, and gives what follows its digits. -/
def readNumber (cs : List Char) : Option (Argument × List Char) := do
  let value ← Base.decimal.read? (cs.takeWhile Char.isDigit)
  some (.number value, cs.dropWhile Char.isDigit)

/-- Reads the member of a link and the closing brace, and gives what follows it. -/
def readMember (cs : List Char) : Option (Argument × List Char) :=
  match cs.dropPrefix? "href: ".toList with
  | none => none
  | some value => do
    let (href, rest) ← readText value
    match rest with
    | '\x7d' :: rest => some (.link href, rest)
    | _ => none

/-- Reads a string literal, a link or a number, and gives what follows it. -/
def readScalar (cs : List Char) : Option (Argument × List Char) :=
  match cs with
  | '"' :: _ => do
    let (text, rest) ← readText cs
    some (.text text, rest)
  | '\x7b' :: member => readMember member
  | cs => readNumber cs

/-- What stands behind a character that ends a run is shorter. -/
lemma length_lt_of_dropWhile {p : Char → Bool} {c : Char} {cs inside : List Char}
    (h : cs.dropWhile p = c :: inside) : inside.length < cs.length := by
  have hle := (List.dropWhile_sublist (l := cs) p).length_le
  rw [h, List.length_cons] at hle
  omega

mutual

/-- Reads an argument, and gives what follows it.  A name and a parenthesis begin a call. -/
def readArgument (cs : List Char) : Option (Argument × List Char) :=
  match hname : cs.dropWhile Char.isAlpha with
  | '(' :: inside => do
    have := length_lt_of_dropWhile hname
    let (arguments, rest) ← readArguments inside
    let part ← build (String.ofList (cs.takeWhile Char.isAlpha)) arguments
    some (.diagram part, rest)
  | _ => readScalar cs
termination_by (cs.length, 0)

/-- Reads the arguments of a call up to the closing parenthesis, and gives what follows it. -/
def readArguments (cs : List Char) : Option (List Argument × List Char) :=
  match cs with
  | ')' :: rest => some ([], rest)
  | cs => do
    let (first, rest) ← readArgument cs
    match rest with
    | ')' :: rest => some ([first], rest)
    | ',' :: ' ' :: next =>
      if next.length < cs.length then do
        let (others, rest) ← readArguments next
        some (first :: others, rest)
      else none
    | _ => none
termination_by (cs.length, 1)

end

/-- Reads an expression as the diagram that it builds. -/
def read? (expression : String) : Option Diagram :=
  match readArgument expression.toList with
  | some (.diagram part, []) => some part
  | _ => none

/-! ## Reading back what is written -/

/-- A piece of text is read as an argument, whatever follows it but further digits. -/
def ReadsAs (piece : List Char) (argument : Argument) : Prop :=
  ∀ rest, Stops Char.isDigit rest → readArgument (piece ++ rest) = some (argument, rest)

/-- Without a name and a parenthesis in front, an argument is a scalar. -/
lemma readArgument_eq_readScalar {cs : List Char}
    (h : (cs.dropWhile Char.isAlpha).head? ≠ some '(') : readArgument cs = readScalar cs := by
  rw [readArgument]
  split
  · next inside hname => simp [hname] at h
  · rfl

lemma readArgument_cons {c : Char} (hletter : c.isAlpha = false) (hc : c ≠ '(')
    (cs : List Char) : readArgument (c :: cs) = readScalar (c :: cs) := by
  refine readArgument_eq_readScalar ?_
  rw [List.dropWhile_cons_of_neg (by simp [hletter])]
  simpa using hc

/-- Nothing is no argument, and neither is a closing parenthesis. -/
lemma ReadsAs.exists_cons {piece : List Char} {argument : Argument} (h : ReadsAs piece argument) :
    ∃ c cs, piece = c :: cs ∧ c ≠ ')' := by
  have hread := h [] (by simp [Stops])
  rw [List.append_nil] at hread
  cases piece with
  | nil =>
    rw [readArgument_eq_readScalar (by simp)] at hread
    simp [readScalar, readNumber, Base.read?] at hread
  | cons c cs =>
    refine ⟨c, cs, rfl, ?_⟩
    rintro rfl
    rw [readArgument_cons (by decide) (by decide)] at hread
    simp [readScalar, readNumber, Base.read?] at hread

/-- A string literal is read as its text. -/
lemma readText_quoteForScript (text : String) (rest : List Char) :
    readText ((Text.quoteForScript text).toList ++ rest) = some (text, rest) := by
  have hread := Json.Reader.reads_literal_of_chars Text.literalTail_scriptChar text
  rw [← Text.toList_quoteForScript] at hread
  rw [readText, hread .start rest trivial]

lemma readsAs_text (text : String) : ReadsAs (Text.quoteForScript text).toList (.text text) := by
  intro rest _
  have hread := readText_quoteForScript text rest
  rw [Text.toList_quoteForScript, List.cons_append] at hread ⊢
  rw [readArgument_cons (by decide) (by decide), readScalar, hread]
  rfl

lemma readsAs_link (href : String) :
    ReadsAs ("\x7bhref: " ++ Text.quoteForScript href ++ "\x7d").toList (.link href) := by
  intro rest _
  have hpiece : ("\x7bhref: " ++ Text.quoteForScript href ++ "\x7d").toList ++ rest =
      '\x7b' :: ("href: ".toList ++ ((Text.quoteForScript href).toList ++ '\x7d' :: rest)) := by
    have hopening : "\x7bhref: ".toList = '\x7b' :: "href: ".toList := by decide
    have hclosing : "\x7d".toList = ['\x7d'] := by decide
    rw [String.toList_append, String.toList_append, hopening, hclosing]
    simp only [List.append_assoc, List.cons_append, List.nil_append]
  rw [hpiece, readArgument_cons (by decide) (by decide), readScalar, readMember,
    dropPrefix?_append]
  dsimp only
  rw [readText_quoteForScript]
  rfl

lemma readScalar_digit {c : Char} (hc : c.isDigit = true) (cs : List Char) :
    readScalar (c :: cs) = readNumber (c :: cs) := by
  rw [readScalar]
  · rintro _ h
    rw [(List.cons.inj h).1] at hc
    exact absurd hc (by decide)
  · rintro _ h
    rw [(List.cons.inj h).1] at hc
    exact absurd hc (by decide)

/-- A number is read as far as its digits go. -/
lemma readsAs_number (n : Nat) : ReadsAs (toString n).toList (.number n) := by
  intro rest hrest
  have hpiece : (toString n).toList = Nat.toDigits Base.decimal.radix n := by simp [Base.radix]
  have hdigits : ∀ c ∈ Nat.toDigits Base.decimal.radix n,
      c.isDigit = true ∧ c.isAlpha = false ∧ c ≠ '(' := fun c hc =>
    Base.forall_digit (p := fun c => c.isDigit = true ∧ c.isAlpha = false ∧ c ≠ '(') (by decide)
      (Base.decimal.isSome_digit?_of_mem hc)
  obtain ⟨c, cs, hcs⟩ := List.exists_cons_of_ne_nil
    (Nat.toDigits_ne_nil (b := Base.decimal.radix) (n := n))
  obtain ⟨hc, hletter, hparenthesis⟩ := hdigits c (by simp [hcs])
  have hdigit := fun c hc => (hdigits c hc).1
  rw [hpiece, hcs, List.cons_append, readArgument_cons hletter hparenthesis,
    readScalar_digit hc, ← List.cons_append, ← hcs, readNumber, takeWhile_run hdigit hrest,
    dropWhile_run hdigit hrest, Base.decimal.read?_toDigits]
  rfl

section Arguments

variable {c : Char} {cs next rest : List Char} {first : Argument} {others : List Argument}

/-- The last argument stands before the closing parenthesis. -/
lemma readArguments_last (hc : c ≠ ')') (h : readArgument (c :: cs) = some (first, ')' :: rest)) :
    readArguments (c :: cs) = some ([first], rest) := by
  rw [readArguments, h]
  · rfl
  · exact fun _ heq => hc (List.cons.inj heq).1

/-- Any other argument stands before a comma. -/
lemma readArguments_next (hc : c ≠ ')')
    (h : readArgument (c :: cs) = some (first, ',' :: ' ' :: next))
    (hlt : next.length < (c :: cs).length) (hnext : readArguments next = some (others, rest)) :
    readArguments (c :: cs) = some (first :: others, rest) := by
  rw [readArguments, h]
  · refine (if_pos hlt).trans ?_
    rw [hnext]
    rfl
  · exact fun _ heq => hc (List.cons.inj heq).1

end Arguments

/-- Arguments with commas in between are read one after the other. -/
lemma readArguments_intercalate {pieces : List (List Char)} {arguments : List Argument}
    (h : List.Forall₂ ReadsAs pieces arguments) (rest : List Char) :
    readArguments ((", ".toList).intercalate pieces ++ ')' :: rest) = some (arguments, rest) := by
  -- What follows an argument is a parenthesis or a comma, and no digit.
  have hstop : ∀ d ds, Char.isDigit d = false → Stops Char.isDigit (d :: ds) := fun _ _ hd =>
    stops_cons.2 hd
  induction h with
  | nil => rw [List.intercalate_nil, List.nil_append, readArguments]
  | @cons piece argument pieces arguments hfirst hothers ih =>
    obtain ⟨c, cs, rfl, hc⟩ := hfirst.exists_cons
    cases hothers with
    | nil =>
      rw [List.intercalate_singleton]
      exact readArguments_last hc (hfirst _ (hstop _ _ (by decide)))
    | @cons next _ nexts _ hnext hnexts =>
      have hcomma : ∀ tail : List Char, ", ".toList ++ tail = ',' :: ' ' :: tail := fun _ => rfl
      rw [List.intercalate_cons_cons, List.append_assoc, List.append_assoc, hcomma]
      refine readArguments_next hc (hfirst _ (hstop _ _ (by decide))) ?_ ih
      simp only [List.append_eq, List.length_cons, List.length_append]
      omega

/-- A call is read as what the function makes of its arguments. -/
lemma readsAs_call {shape : String} {pieces : List String} {arguments : List Argument}
    {part : Diagram} (hshape : shape.toList.all Char.isAlpha = true)
    (h : List.Forall₂ (fun piece argument => ReadsAs piece.toList argument) pieces arguments)
    (hbuild : build shape arguments = some part) :
    ReadsAs (call shape pieces).toList (.diagram part) := by
  intro rest _
  have hname := List.all_eq_true.1 hshape
  have hstop : ∀ inside, Stops Char.isAlpha ('(' :: inside) := fun _ => stops_cons.2 (by decide)
  have harguments := readArguments_intercalate (List.forall₂_map_left_iff.2 h) rest
  rw [toList_call, List.append_assoc, List.cons_append, List.append_assoc, List.singleton_append]
  rw [readArgument]
  split
  · next inside hinside =>
    rw [dropWhile_run hname (hstop _)] at hinside
    obtain rfl := (List.cons.inj hinside).2
    rw [takeWhile_run hname (hstop _), String.ofList_toList, harguments]
    dsimp only [bind, Option.bind]
    rw [hbuild]
  · next hno =>
    exact absurd (dropWhile_run hname (hstop _)) (hno _)

lemma map_mapM_diagram? (make : List Diagram → Diagram) (parts : List Diagram) :
    make <$> (parts.map Argument.diagram).mapM Argument.diagram? = some (make parts) := by
  have hparts : (parts.map Argument.diagram).mapM Argument.diagram? = some parts := by
    induction parts with
    | nil => rfl
    | cons part rest ih =>
      rw [List.map_cons, List.mapM_cons, ih]
      rfl
  rw [hparts]
  rfl

mutual

/-- The expression of a diagram is read as the diagram. -/
theorem readsAs_script (diagram : Diagram) :
    ReadsAs diagram.script.toList (.diagram diagram) := by
  match diagram with
  | .diagram items =>
    exact readsAs_call (by decide) (readsAs_scripts items) (map_mapM_diagram? .diagram items)
  | .complexDiagram items =>
    exact readsAs_call (by decide) (readsAs_scripts items) (map_mapM_diagram? .complexDiagram items)
  | .terminal text => exact readsAs_call (by decide) (.cons (readsAs_text text) .nil) rfl
  | .nonTerminal name href =>
    exact readsAs_call (by decide) (.cons (readsAs_text name) (.cons (readsAs_link href) .nil)) rfl
  | .choice default branches =>
    exact readsAs_call (by decide) (.cons (readsAs_number default) (readsAs_scripts branches))
      (map_mapM_diagram? (.choice default) branches)
  | .sequence items =>
    exact readsAs_call (by decide) (readsAs_scripts items) (map_mapM_diagram? .sequence items)
  | .group item => exact readsAs_call (by decide) (.cons (readsAs_script item) .nil) rfl
  | .optional item => exact readsAs_call (by decide) (.cons (readsAs_script item) .nil) rfl
  | .zeroOrMore item label =>
    exact readsAs_call (by decide)
      (.cons (readsAs_script item) (.cons (readsAs_script label) .nil)) rfl
  | .oneOrMore item label =>
    exact readsAs_call (by decide)
      (.cons (readsAs_script item) (.cons (readsAs_script label) .nil)) rfl
  | .comment text => exact readsAs_call (by decide) (.cons (readsAs_text text) .nil) rfl

theorem readsAs_scripts (diagrams : List Diagram) :
    List.Forall₂ (fun piece argument => ReadsAs piece.toList argument) (scripts diagrams)
      (diagrams.map Argument.diagram) := by
  match diagrams with
  | [] => exact .nil
  | first :: rest => exact .cons (readsAs_script first) (readsAs_scripts rest)

end

/-- The expression of a diagram is read as the diagram and nothing else. -/
lemma read?_script (diagram : Diagram) : read? diagram.script = some diagram := by
  have hread := diagram.readsAs_script [] (by simp [Stops])
  rw [List.append_nil] at hread
  rw [read?, hread]

end Diagram

/-! ## Scripts of renderings -/

namespace Diagnostic

/-- A line ends at its line feed, if no carriage return stands before it. -/
lemma linesAfter_line {piece : List Char} (h : piece.all Text.isInline = true) (rest : List Char) :
    linesAfter [] (piece ++ '\n' :: rest) = piece :: linesAfter [] rest := by
  have hfeed : '\n' ∉ piece := fun hmem => absurd (List.all_eq_true.1 h _ hmem) (by decide)
  have hreturn : piece.reverse.head? ≠ some '\r' := fun heq =>
    absurd (List.all_eq_true.1 h _ (List.mem_reverse.1 (List.mem_of_head? heq))) (by decide)
  rw [linesAfter_append hfeed, List.append_nil, linesAfter_feed hreturn, List.reverse_reverse]

/-- Texts that are written on one line each are the lines. -/
lemma lines_join {texts : List String} (h : ∀ text ∈ texts, text.toList.all Text.isInline = true) :
    lines (String.join (texts.map (· ++ "\n"))) = texts.map String.toList := by
  rw [lines]
  induction texts with
  | nil => rfl
  | cons text rest ih =>
    have hline := linesAfter_line (h text (by simp))
      (String.join (rest.map (· ++ "\n"))).toList
    have hrest := ih fun other ho => h other (by simp [ho])
    rw [hrest] at hline
    rw [List.map_cons, List.map_cons, String.join_cons, String.toList_append,
      String.toList_append, List.append_assoc]
    exact hline

end Diagnostic

namespace Diagram

/-- **Expressions decode to their diagrams.**  The expression of a diagram, whatever the diagram is,
holds neither `<` nor a control character, and it is read as the diagram, so that different diagrams
have different expressions.  The script of a rendering has one line for each diagram that is shown,
and these lines are read as the diagrams, in order. -/
theorem script_decodes :
    (∀ diagram : Diagram, (∀ c ∈ diagram.script.toList, c ≠ '<' ∧ 32 ≤ c.toNat) ∧
      read? diagram.script = some diagram) ∧
    Function.Injective script ∧
    ∀ R : Rendering,
      Diagnostic.lines R.railroad = R.diagrams.map (fun diagram => diagram.script.toList) ∧
      (Diagnostic.lines R.railroad).map (fun line => read? (String.ofList line)) =
        R.diagrams.map some := by
  refine ⟨fun diagram => ⟨?_, read?_script diagram⟩, ?_, fun R => ?_⟩
  · intro c hc
    have hinline := List.all_eq_true.1 diagram.all_script c hc
    simpa [Text.isInline] using hinline
  · intro diagram other h
    have hread := read?_script diagram
    rw [h, read?_script] at hread
    exact (Option.some.inj hread).symm
  · have hlines : Diagnostic.lines R.railroad =
        R.diagrams.map fun diagram => diagram.script.toList := by
      have hinline : ∀ text ∈ R.diagrams.map script, text.toList.all Text.isInline = true :=
        List.forall_mem_map.2 fun diagram _ => diagram.all_script
      have hjoin := Diagnostic.lines_join hinline
      rw [List.map_map, List.map_map] at hjoin
      exact hjoin
    refine ⟨hlines, ?_⟩
    rw [hlines, List.map_map]
    refine List.map_congr_left fun diagram _ => ?_
    rw [Function.comp_apply, String.ofList_toList, read?_script]

end Diagram

end Abnf
