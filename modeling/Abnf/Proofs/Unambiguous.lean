import Abnf.Proofs.PlainText

/-!
# Plain listings are unambiguous

The plain listing of a rule with the shape of ABNF determines the rule, as far as ABNF text can tell
(`plain_eq_iff`).  The proof reads a definition off its text, level by level.  Each level has a set
of continuations at which a definition of the level must end (`Follows`), and a definition is
`Readable` on a level if its text and any such continuation cannot be taken for another definition
and another continuation.  An element is known by its first characters (`lead`), a repetition by the
bounds in front of its element, a concatenation and an alternation by their separators.
-/

namespace Abnf

/-- The level of the parts of a definition. -/
def Level.below : Level → Level
  | .alternation => .concatenation
  | .concatenation => .repetition
  | .repetition | .element => .element

/-- What may follow a definition of a level: a closing parenthesis or bracket, and what separates it
from the next part of a definition of the level above. -/
inductive Follows : Level → List Char → Prop
  /-- Nothing. -/
  | nothing {level : Level} : Follows level []
  /-- A closing parenthesis. -/
  | parenthesis {level : Level} (rest : List Char) : Follows level (')' :: rest)
  /-- A closing bracket. -/
  | bracket {level : Level} (rest : List Char) : Follows level (']' :: rest)
  /-- Another choice. -/
  | choice {level : Level} (rest : List Char) : level ≠ .alternation →
      Follows level (' ' :: '/' :: ' ' :: rest)
  /-- Another element. -/
  | element {level : Level} (rest : List Char) : level.below = .element →
      Follows level (' ' :: rest)

namespace Follows

/-- What may follow a definition may follow its last part. -/
lemma below {level : Level} {rest : List Char} (h : Follows level rest) :
    Follows level.below rest := by
  cases h with
  | nothing => exact .nothing
  | parenthesis rest => exact .parenthesis rest
  | bracket rest => exact .bracket rest
  | choice rest hlevel => exact .choice rest (by cases level <;> simp [Level.below])
  | element rest hlevel => exact .element rest (by rw [hlevel]; rfl)

/-- Nothing that belongs to a leaf can follow a definition. -/
lemma stops {level : Level} {rest : List Char} (h : Follows level rest) {p : Char → Bool}
    (hp : p ' ' = false ∧ p ')' = false ∧ p ']' = false) : Stops p rest := by
  obtain ⟨hspace, hparenthesis, hbracket⟩ := hp
  cases h with
  | nothing => simp [Stops]
  | parenthesis rest => exact stops_cons.2 hparenthesis
  | bracket rest => exact stops_cons.2 hbracket
  | choice rest _ => exact stops_cons.2 hspace
  | element rest _ => exact stops_cons.2 hspace

end Follows

/-! ## What a definition begins with -/

/-- The ways in which a repetition can begin. -/
inductive Lead where
  /-- With a letter. -/
  | name
  /-- With a quote, and the mark of the casing where it matters. -/
  | quote (casing : Casing)
  /-- With the mark of a base. -/
  | code (base : Base)
  /-- With an opening angle bracket. -/
  | angle
  /-- With an opening parenthesis. -/
  | parenthesis
  /-- With an opening bracket. -/
  | bracket
  /-- With bounds. -/
  | bounds
  /-- In no such way. -/
  | other
deriving DecidableEq, Repr, Inhabited

/-- How a text begins. -/
def lead : List Char → Lead
  | '"' :: _ => .quote .insensitive
  | '%' :: 's' :: _ => .quote .sensitive
  | '%' :: 'b' :: _ => .code .binary
  | '%' :: 'd' :: _ => .code .decimal
  | '%' :: 'x' :: _ => .code .hexadecimal
  | '<' :: _ => .angle
  | '(' :: _ => .parenthesis
  | '[' :: _ => .bracket
  | c :: _ => if c.isAlpha then .name else if Repeat.isStar c then .bounds else .other
  | [] => .other

/-- The characters that begin something else than a name or bounds. -/
def openings : List Char := ['"', '%', '<', '(', '[']

lemma lead_cons {c : Char} (h : c ∉ openings) (rest : List Char) :
    lead (c :: rest) =
      if c.isAlpha then .name else if Repeat.isStar c then .bounds else .other := by
  unfold lead
  split <;> simp_all [openings]

lemma notMem_openings {p : Char → Bool} (hp : (openings.all fun d => !p d) = true) {c : Char}
    (h : p c = true) : c ∉ openings := by
  intro hmem
  have hfalse := List.all_eq_true.1 hp c hmem
  simp [h] at hfalse

lemma lead_of_isAlpha {c : Char} (h : c.isAlpha = true) (rest : List Char) :
    lead (c :: rest) = .name := by
  rw [lead_cons (notMem_openings (by decide) h), if_pos h]

lemma lead_of_isStar {c : Char} (h : Repeat.isStar c = true) (rest : List Char) :
    lead (c :: rest) = .bounds := by
  have hopening := notMem_openings (p := Repeat.isStar) (by decide) h
  have halpha : c.isAlpha = false := by
    rw [Repeat.isStar, Bool.or_eq_true, beq_iff_eq] at h
    rcases h with hdigit | rfl
    · exact Base.forall_digit (p := fun c => c.isAlpha = false) (by decide) hdigit
    · decide
  rw [lead_cons hopening, halpha, h]
  rfl

namespace Node

/-- How the text of an element begins. -/
def lead : Node → Lead
  | .reference _ => .name
  | .literal casing _ none => .quote casing
  | .literal _ _ (some base) => .code base
  | .range _ _ base => .code base
  | .prose _ => .angle
  | .group _ => .parenthesis
  | .repetition _ _ => .bracket
  | _ => .other

/-! ## Elements -/

/-- An element begins as its kind says. -/
lemma lead_written {node : Node} (h : Shaped .element node) (rest : List Char) :
    Abnf.lead (node.written ++ rest) = node.lead := by
  cases h with
  | @reference name hname =>
    rw [isRulename] at hname
    rw [written_reference]
    split at hname
    · exact absurd hname (by simp)
    · next c cs heq =>
      rw [Bool.and_eq_true] at hname
      rw [heq]
      exact lead_of_isAlpha hname.1 _
  | @quoted casing text htext =>
    rw [written_literal]
    cases casing <;> simp [literalContent, Abnf.lead, lead]
  | @coded casing text base htext =>
    rw [written_coded casing base htext]
    cases base <;> rfl
  | @range first last base =>
    rw [written_range]
    cases base <;> rfl
  | @prose text htext =>
    rw [written_prose]
    rfl
  | @group inner hinner =>
    rw [written_group]
    rfl
  | @optional element helement =>
    rw [written_optional]
    rfl

/-- On a level, the canonical tree of a definition and what follows the definition can be told from
the text of both. -/
def Readable (level : Level) (node : Node) : Prop :=
  ∀ (other : Node) (r s : List Char), Shaped level node → Shaped level other →
    Follows level r → Follows level s → node.written ++ r = other.written ++ s →
    node.canonical = other.canonical ∧ r = s

/-- What stands between two marks ends at the second one. -/
lemma enclosed_inj {mark : Char} {x y r s : List Char} (hx : mark ∉ x) (hy : mark ∉ y)
    (h : x ++ mark :: r = y ++ mark :: s) : x = y ∧ r = s := by
  have hmark : ∀ rest, Stops (· != mark) (mark :: rest) := fun rest => stops_cons.2 (by simp)
  have hne : ∀ {z : List Char}, mark ∉ z → ∀ c ∈ z, (c != mark) = true := by
    intro z hz c hc
    have hcm : c ≠ mark := fun heq => hz (heq ▸ hc)
    simpa using hcm
  obtain ⟨htext, hrest⟩ := run_inj (hne hx) (hne hy) (hmark r) (hmark s) h
  exact ⟨htext, (List.cons.inj hrest).2⟩

lemma quoted_inj {casing : Casing} {text other : String} (ht : '"' ∉ text.toList)
    (ho : '"' ∉ other.toList) {r s : List Char}
    (h : written (.literal casing text none) ++ r = written (.literal casing other none) ++ s) :
    text = other ∧ r = s := by
  simp only [written_literal, literalContent, String.toList_append, List.append_assoc] at h
  have hquote := List.append_cancel_left (List.append_cancel_left h)
  obtain ⟨htext, hrest⟩ := enclosed_inj ht ho hquote
  exact ⟨String.toList_inj.1 htext, hrest⟩

lemma prose_inj {text other : String} (ht : '>' ∉ text.toList) (ho : '>' ∉ other.toList)
    {r s : List Char} (h : written (.prose text) ++ r = written (.prose other) ++ s) :
    text = other ∧ r = s := by
  simp only [written_prose, List.cons_append, List.append_assoc] at h
  obtain ⟨htext, hrest⟩ := enclosed_inj ht ho (List.cons.inj h).2
  exact ⟨String.toList_inj.1 htext, hrest⟩

/-- An element is readable if what stands in its parentheses or brackets is. -/
lemma readable_element {node : Node} (hgroup : ∀ inner, node = .group inner →
      Readable .alternation inner)
    (hoptional : ∀ element bounds, node = .repetition element bounds →
      Readable .alternation element.unwrapped) : Readable .element node := by
  intro other r s hnode hother hr hs heq
  -- The two texts begin alike, so the two elements are of the same kind.
  have hlead : node.lead = other.lead := by
    rw [← lead_written hnode r, heq, lead_written hother s]
  have hcode : ∀ {rest}, Follows .element rest → Stops Base.isCode rest := fun h =>
    h.stops (by decide)
  cases hnode with
  | @reference name hname =>
    cases hother with
    | @reference name' hname' =>
      rw [written_reference, written_reference] at heq
      obtain ⟨htext, hrest⟩ := run_inj (nameChar_of_isRulename hname)
        (nameChar_of_isRulename hname') (hr.stops (by decide)) (hs.stops (by decide)) heq
      rw [String.toList_inj.1 htext]
      exact ⟨rfl, hrest⟩
    | _ => simp [lead] at hlead
  | @quoted casing text htext =>
    cases hother with
    | @quoted casing' text' htext' =>
      obtain rfl : casing = casing' := by simpa [lead] using hlead
      obtain ⟨rfl, hrest⟩ := quoted_inj htext htext' heq
      exact ⟨rfl, hrest⟩
    | _ => simp [lead] at hlead
  | @coded casing text base htext =>
    cases hother with
    | @coded casing' text' base' htext' =>
      obtain rfl : base = base' := by simpa [lead] using hlead
      rw [written_coded casing base htext, written_coded casing' base htext'] at heq
      simp only [List.cons_append, List.cons.injEq, true_and] at heq
      obtain ⟨rfl, hrest⟩ := base.codes_inj htext htext' (hcode hr) (hcode hs) heq
      exact ⟨rfl, hrest⟩
    | @range first' last' base' =>
      obtain rfl : base = base' := by simpa [lead] using hlead
      rw [written_coded casing base htext, written_range] at heq
      simp only [List.cons_append, List.cons.injEq, true_and] at heq
      exact absurd heq (base.codes_ne_bounds htext (hcode hr))
    | _ => simp [lead] at hlead
  | @range first last base =>
    cases hother with
    | @range first' last' base' =>
      obtain rfl : base = base' := by simpa [lead] using hlead
      rw [written_range, written_range] at heq
      simp only [List.cons_append, List.cons.injEq, true_and] at heq
      obtain ⟨rfl, rfl, hrest⟩ := base.bounds_inj (hcode hr) (hcode hs) heq
      exact ⟨rfl, hrest⟩
    | @coded casing' text' base' htext' =>
      obtain rfl : base = base' := by simpa [lead] using hlead
      rw [written_range, written_coded casing' base htext'] at heq
      simp only [List.cons_append, List.cons.injEq, true_and] at heq
      exact absurd heq.symm (base.codes_ne_bounds htext' (hcode hs))
    | _ => simp [lead] at hlead
  | @prose text htext =>
    cases hother with
    | @prose text' htext' =>
      obtain ⟨rfl, hrest⟩ := prose_inj htext htext' heq
      exact ⟨rfl, hrest⟩
    | _ => simp [lead] at hlead
  | @group inner hinner =>
    cases hother with
    | @group inner' hinner' =>
      simp only [written_group, List.cons_append, List.append_assoc, List.cons.injEq, true_and,
        List.nil_append] at heq
      obtain ⟨hcanonical, hrest⟩ := hgroup inner rfl inner' _ _ hinner hinner'
        (.parenthesis r) (.parenthesis s) heq
      rw [canonical, canonical, hcanonical]
      exact ⟨rfl, (List.cons.inj hrest).2⟩
    | _ => simp [lead] at hlead
  | @optional element helement =>
    cases hother with
    | @optional element' helement' =>
      simp only [written_optional, List.cons_append, List.append_assoc, List.cons.injEq, true_and,
        List.nil_append] at heq
      obtain ⟨hcanonical, hrest⟩ := hoptional element _ rfl _ _ _ helement.unwrapped
        helement'.unwrapped (.bracket r) (.bracket s) heq
      rw [canonical_optional, canonical_optional, hcanonical]
      exact ⟨rfl, (List.cons.inj hrest).2⟩
    | _ => simp [lead] at hlead

/-! ## Repetitions -/

/-- A definition on the level of repetitions: some bounds and the element behind them. -/
inductive Repeats : Node → List Char → Node → Prop
  /-- An element without bounds. -/
  | once {node : Node} : Shaped .element node → Repeats node [] node
  /-- A repetition that is written with bounds. -/
  | bounded {element : Node} {bounds : Repeat} : Shaped .element element →
      bounds.isOptional = false →
      Repeats (.repetition element bounds) bounds.star.toList element

namespace Repeats

lemma of_shaped {node : Node} (h : Shaped .repetition node) :
    ∃ stars element, Repeats node stars element := by
  cases h with
  | once hnode => exact ⟨[], node, .once hnode⟩
  | @repetition element bounds helement =>
    cases hoptional : bounds.isOptional with
    | true =>
      obtain rfl := bounds.isOptional_iff.1 hoptional
      exact ⟨[], _, .once helement.optional⟩
    | false => exact ⟨_, _, .bounded helement hoptional⟩

variable {node element : Node} {stars : List Char}

lemma shaped (h : Repeats node stars element) : Shaped .element element := by
  cases h <;> assumption

lemma written (h : Repeats node stars element) : node.written = stars ++ element.written := by
  cases h with
  | once _ => rfl
  | bounded _ hoptional => exact written_repetition _ hoptional

lemma isStar (h : Repeats node stars element) : ∀ c ∈ stars, Repeat.isStar c = true := by
  cases h with
  | once _ => simp
  | bounded _ _ => exact fun c hc => Repeat.isStar_of_mem hc

end Repeats

/-- An element does not go on with bounds. -/
lemma stops_isStar {node : Node} (h : Shaped .element node) (rest : List Char) :
    Stops Repeat.isStar (node.written ++ rest) := by
  intro c hc
  by_contra hstar
  obtain ⟨cs, hcs⟩ : ∃ cs, node.written ++ rest = c :: cs := by
    cases htext : node.written ++ rest with
    | nil => simp [htext] at hc
    | cons d ds =>
      rw [htext, List.head?_cons, Option.mem_some_iff] at hc
      exact ⟨ds, by rw [hc]⟩
  have hlead := lead_written h rest
  rw [hcs, lead_of_isStar (by simpa using hstar)] at hlead
  cases h <;> simp [lead] at hlead

/-- A repetition is readable if its element is. -/
lemma readable_repetition {node : Node} (helement : Readable .element node)
    (hbelow : ∀ element bounds, node = .repetition element bounds → Readable .element element) :
    Readable .repetition node := by
  intro other r s hnode hother hr hs heq
  obtain ⟨stars, core, hcore⟩ := Repeats.of_shaped hnode
  obtain ⟨stars', core', hcore'⟩ := Repeats.of_shaped hother
  rw [hcore.written, hcore'.written, List.append_assoc, List.append_assoc] at heq
  -- The bounds end where the element begins.
  obtain ⟨hstars, hrest⟩ := run_inj hcore.isStar hcore'.isStar (stops_isStar hcore.shaped r)
    (stops_isStar hcore'.shaped s) heq
  have hreadable : Readable .element core := by
    cases hcore with
    | once _ => exact helement
    | bounded _ _ => exact hbelow _ _ rfl
  obtain ⟨hcanonical, hend⟩ := hreadable core' r s hcore.shaped hcore'.shaped hr.below hs.below
    hrest
  refine ⟨?_, hend⟩
  cases hcore with
  | once _ =>
    cases hcore' with
    | once _ => exact hcanonical
    | bounded _ _ => exact absurd hstars.symm (Repeat.star_ne_nil _)
  | @bounded _ bounds _ hoptional =>
    cases hcore' with
    | once _ => exact absurd hstars (Repeat.star_ne_nil _)
    | @bounded _ bounds' _ hoptional' =>
      obtain rfl : bounds = bounds' := Repeat.star_inj hstars
      rw [canonical, canonical, hcanonical]

/-! ## Concatenations and alternations -/

/-- The node that some parts make up: a single part stands for itself. -/
def joined (make : List Node → Node) : List Node → Node
  | [part] => part
  | parts => make parts

lemma joined_of_two {make : List Node → Node} {parts : List Node} (h : 2 ≤ parts.length) :
    joined make parts = make parts := by
  match parts, h with
  | _ :: _ :: _, _ => rfl

/-- A definition on a level whose parts are written with a separator in between. -/
structure Joins (level : Level) (make : List Node → Node) (separator : List Char) (node : Node)
    (parts : List Node) : Prop where
  /-- There are parts. -/
  ne_nil : parts ≠ []
  /-- The parts are on the level below. -/
  shaped : ∀ part ∈ parts, Shaped level.below part
  /-- The text of the definition. -/
  written : node.written = separator.intercalate (parts.map written)
  /-- The canonical tree of the definition. -/
  canonical : node.canonical = joined make (parts.map canonical)

/-- The elements of a concatenation; anything else is its own only element. -/
def elements : Node → List Node
  | .concatenation elements => elements
  | node => [node]

/-- The choices of an alternation; anything else is its own only choice. -/
def choices : Node → List Node
  | .alternation choices => choices
  | node => [node]

lemma mem_elements {node part : Node} (h : part ∈ node.elements) :
    part = node ∨ part.count < node.count := by
  cases node with
  | concatenation elements =>
    have hle : part.count ≤ countAll elements := count_le_countAll h
    exact .inr (by simp only [count]; omega)
  | _ => exact .inl (List.mem_singleton.1 h)

lemma mem_choices {node part : Node} (h : part ∈ node.choices) :
    part = node ∨ part.count < node.count := by
  cases node with
  | alternation choices =>
    have hle : part.count ≤ countAll choices := count_le_countAll h
    exact .inr (by simp only [count]; omega)
  | _ => exact .inl (List.mem_singleton.1 h)

lemma joins_single (level : Level) (make : List Node → Node) (separator : List Char)
    {node : Node} (h : Shaped level.below node) : Joins level make separator node [node] where
  ne_nil := by simp
  shaped part hpart := by rwa [List.mem_singleton.1 hpart]
  written := by simp
  canonical := rfl

lemma joins_many {level : Level} {make : List Node → Node} {separator : List Char}
    {parts : List Node} (h : 2 ≤ parts.length) (hshaped : ∀ part ∈ parts, Shaped level.below part)
    (hwritten : (make parts).written = separator.intercalate (parts.map Node.written))
    (hcanonical : (make parts).canonical = make (canonicalAll parts)) :
    Joins level make separator (make parts) parts where
  ne_nil := by
    rintro rfl
    simp at h
  shaped := hshaped
  written := hwritten
  canonical := by
    have hmap : 2 ≤ (parts.map Node.canonical).length := by simpa using h
    rw [hcanonical, canonicalAll_eq_map, joined_of_two hmap]

lemma joins_elements {node : Node} (h : Shaped .concatenation node) :
    Joins .concatenation .concatenation [' '] node node.elements := by
  cases h with
  | @concatenation elements htwo hshaped =>
    exact joins_many htwo hshaped (written_concatenation elements) (by rw [canonical])
  | alone hnode =>
    have hsingle := joins_single .concatenation .concatenation [' '] hnode
    cases hnode with
    | repetition _ => exact hsingle
    | once helement => cases helement <;> exact hsingle

lemma joins_choices {node : Node} (h : Shaped .alternation node) :
    Joins .alternation .alternation [' ', '/', ' '] node node.choices := by
  cases h with
  | @alternation choices htwo hshaped =>
    exact joins_many htwo hshaped (written_alternation choices) (by rw [canonical])
  | single hnode =>
    have hsingle := joins_single .alternation .alternation [' ', '/', ' '] hnode
    cases hnode with
    | concatenation _ _ => exact hsingle
    | alone hrepetition =>
      cases hrepetition with
      | repetition _ => exact hsingle
      | once helement => cases helement <;> exact hsingle

/-- A definition is readable if its parts are. -/
lemma readable_of_joins {level : Level} {make : List Node → Node} {separator : List Char}
    (hseparates : Separates separator written (Shaped level.below) (Follows level.below)
      (Follows level)) {node other : Node} {parts parts' : List Node}
    (hnode : Joins level make separator node parts)
    (hother : Joins level make separator other parts')
    (hparts : ∀ part ∈ parts, Readable level.below part) {r s : List Char}
    (hr : Follows level r) (hs : Follows level s) (heq : node.written ++ r = other.written ++ s) :
    node.canonical = other.canonical ∧ r = s := by
  rw [hnode.written, hother.written] at heq
  have hcut : ∀ part ∈ parts, ∀ part' ∈ parts', ∀ {r s}, Follows level.below r →
      Follows level.below s → part.written ++ r = part'.written ++ s →
      part.canonical = part'.canonical ∧ r = s := fun part hp part' hp' r s hr hs heq =>
    hparts part hp part' r s (hnode.shaped part hp) (hother.shaped part' hp') hr hs heq
  obtain ⟨hkeys, hend⟩ := hseparates.inj hcut hnode.shaped hother.shaped hnode.ne_nil
    hother.ne_nil hr hs heq
  rw [hnode.canonical, hother.canonical, hkeys]
  exact ⟨rfl, hend⟩

lemma lead_repetition {node : Node} (h : Shaped .repetition node) (rest : List Char) :
    Abnf.lead (node.written ++ rest) ≠ .other := by
  obtain ⟨stars, element, hrepeats⟩ := Repeats.of_shaped h
  cases hrepeats with
  | once helement =>
    rw [lead_written helement]
    cases helement <;> simp [lead]
  | @bounded element bounds _ hoptional =>
    rw [written_repetition _ hoptional]
    cases hstars : bounds.star.toList with
    | nil => exact absurd hstars bounds.star_ne_nil
    | cons c cs =>
      have hc : Repeat.isStar c = true := Repeat.isStar_of_mem (by rw [hstars]; simp)
      rw [List.cons_append, List.cons_append, lead_of_isStar hc]
      simp

lemma separates_elements : Separates [' '] written (Shaped .repetition) (Follows .repetition)
    (Follows .concatenation) where
  last h := h.below
  next r := .element r rfl
  stop r hshaped h := by
    -- After the space there would have to be a slash.
    have hlead := lead_repetition hshaped r
    generalize written _ ++ r = text at h hlead
    cases h with
    | choice rest _ => exact hlead rfl
    | element rest hlevel => simp [Level.below] at hlevel

lemma separates_choices : Separates [' ', '/', ' '] written (Shaped .concatenation)
    (Follows .concatenation) (Follows .alternation) where
  last h := h.below
  next r := .choice r (by simp)
  stop r hshaped h := by
    cases h with
    | choice rest hlevel => exact hlevel rfl
    | element rest hlevel => simp [Level.below] at hlevel

/-! ## All levels -/

/-- Every definition is readable on every level. -/
theorem readable (level : Level) (node : Node) : Readable level node := by
  -- Inside brackets the group is passed over, so the induction is on the number of nodes.
  induction hn : node.count using Nat.strongRecOn generalizing node level with
  | ind n ih =>
    subst hn
    have below : ∀ {child : Node} (level : Level), child.count < node.count →
        Readable level child := fun level hlt => ih _ hlt level _ rfl
    have helement : Readable .element node := by
      refine readable_element ?_ ?_
      · rintro inner rfl
        exact below _ (by simp [count])
      · rintro element bounds rfl
        have hle := count_unwrapped_le element
        exact below _ (by simp only [count]; omega)
    have hrepetition : Readable .repetition node := by
      refine readable_repetition helement ?_
      rintro element bounds rfl
      exact below _ (by simp [count])
    have hconcatenation : Readable .concatenation node := by
      intro other r s hnode hother hr hs heq
      refine readable_of_joins separates_elements (joins_elements hnode) (joins_elements hother) ?_
        hr hs heq
      intro part hpart
      rcases mem_elements hpart with rfl | hlt
      · exact hrepetition
      · exact below _ hlt
    have halternation : Readable .alternation node := by
      intro other r s hnode hother hr hs heq
      refine readable_of_joins separates_choices (joins_choices hnode) (joins_choices hother) ?_
        hr hs heq
      intro part hpart
      rcases mem_choices hpart with rfl | hlt
      · exact hconcatenation
      · exact below _ hlt
    cases level with
    | alternation => exact halternation
    | concatenation => exact hconcatenation
    | repetition => exact hrepetition
    | element => exact helement

/-- Definitions that are written alike have the same canonical tree. -/
theorem canonical_eq_of_written_eq {node other : Node} (h : Shaped .alternation node)
    (hother : Shaped .alternation other) (heq : node.written = other.written) :
    node.canonical = other.canonical :=
  (readable .alternation node other [] [] h hother .nothing .nothing (by rw [heq])).1

end Node

/-! ## Rules -/

namespace Listing

/-- **Plain listings are unambiguous.**  Two rules with the shape of ABNF that fit can both be
written, and they have the same plain listing exactly when they are the same but for groups directly
inside brackets and for the casing of codes. -/
theorem plain_eq_iff {first second : Node} (hfirst : first.ShapedRule)
    (hsecond : second.ShapedRule) {limit : Nat} (hfits : first.Fits limit)
    (hfits' : second.Fits limit) :
    ∃ text text', (bare limit).rule first = .ok text ∧ (bare limit).rule second = .ok text' ∧
      (text = text' ↔ Alike first second) := by
  cases first with
  | rule name definition =>
    cases second with
    | rule name' definition' =>
      obtain ⟨hname, hshaped⟩ := hfirst
      obtain ⟨hname', hshaped'⟩ := hsecond
      obtain ⟨text, htext, hlist⟩ := bare_rule hshaped hfits
      obtain ⟨text', htext', hlist'⟩ := bare_rule hshaped' hfits'
      refine ⟨text, text', htext, htext', ?_⟩
      rw [← String.toList_inj, hlist, hlist', alike_iff]
      constructor
      · intro heq
        have hspace : ∀ rest, Stops nameChar (' ' :: rest) := fun rest =>
          stops_cons.2 (by decide)
        obtain ⟨hnames, hrest⟩ := run_inj (nameChar_of_isRulename hname)
          (nameChar_of_isRulename hname') (hspace _) (hspace _) heq
        simp only [List.cons.injEq, true_and] at hrest
        rw [Node.canonical, Node.canonical, String.toList_inj.1 hnames,
          Node.canonical_eq_of_written_eq hshaped hshaped' hrest]
      · intro hcanonical
        rw [Node.canonical, Node.canonical, Node.rule.injEq] at hcanonical
        obtain ⟨rfl, hdefinitions⟩ := hcanonical
        rw [← definition.written_canonical, hdefinitions, definition'.written_canonical]
    | _ => exact hsecond.elim
  | _ => exact hfirst.elim

/-- A rule with brackets around an element and with a code behind them. -/
def brackets (casing : Casing) (element : Node) : Node :=
  .rule "a" (.concatenation
    [.repetition element ⟨0, some 1⟩, .literal casing "c" (some .hexadecimal)])

lemma shaped_brackets (casing : Casing) {element : Node} (h : Shaped .element element) :
    (brackets casing element).ShapedRule := by
  refine ⟨by decide, .single (.concatenation (by simp) ?_)⟩
  intro part hpart
  rcases List.mem_cons.1 hpart with rfl | hlast
  · exact h.repetition
  · rw [List.mem_singleton.1 hlast]
    exact .once (.coded (by decide))

/-- Neither the group inside the brackets nor the casing of the code is seen in the listing. -/
theorem plain_eq_iff_brackets :
    (brackets .sensitive (.group (.reference "b"))).ShapedRule ∧
      (brackets .insensitive (.reference "b")).ShapedRule ∧
      (brackets .sensitive (.group (.reference "b"))).Fits 4 ∧
      (brackets .insensitive (.reference "b")).Fits 4 ∧
      ∃ text, (bare 4).rule (brackets .sensitive (.group (.reference "b"))) = .ok text ∧
        (bare 4).rule (brackets .insensitive (.reference "b")) = .ok text := by
  have hreference : Shaped .element (.reference "b") := .reference (by decide)
  have hshaped : (brackets .sensitive (.group (.reference "b"))).ShapedRule :=
    shaped_brackets _ (.group hreference.once.alone.single)
  have hshaped' : (brackets .insensitive (.reference "b")).ShapedRule :=
    shaped_brackets _ hreference
  have hfits : (brackets .sensitive (.group (.reference "b"))).Fits 4 := by
    unfold brackets Node.Fits
    decide
  have hfits' : (brackets .insensitive (.reference "b")).Fits 4 := by
    unfold brackets Node.Fits
    decide
  obtain ⟨text, text', htext, htext', hiff⟩ := plain_eq_iff hshaped hshaped' hfits hfits'
  obtain rfl : text = text' := hiff.2 (alike_iff.2 rfl)
  exact ⟨hshaped, hshaped', hfits, hfits', text, htext, htext'⟩

end Listing

end Abnf
