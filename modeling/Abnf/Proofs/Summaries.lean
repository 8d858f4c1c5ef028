import Abnf.Cli.Run
import Abnf.Proofs.Json.Indented
import Abnf.Proofs.Outcome
import Abnf.Proofs.RoundTrip
import Abnf.Proofs.Sheets

/-!
# Summaries and renderings agree

A summary tells of every definition what a rendering tells of the rule that it shows: the name,
where the definition comes from, and whether it is an entry point.  A rendering has diagrams for
just the rules that its policy asks for, and the kind of a diagram is that of its rule.  Unlike a
rendering, a summary is there for every grammar.  It is put out as a table with a row for each
definition, in order, and the numbers of rows and of entry points below it, or as JSON that holds a
value for each definition, in order (`summaries_agree`).
-/

namespace Abnf

/-- What a summary tells of a rule that is shown. -/
def RenderedRule.summary (rule : RenderedRule) : RuleSummary :=
  ⟨rule.name, rule.provenance, rule.entryPoint⟩

/-! ## Rules that are shown -/

/-- The whole diagram of a rule is complex if the rule is an entry point. -/
lemma Drawing.whole_eq_complexDiagram_iff (drawing : Drawing) (name : String) (body : Diagram) :
    (∃ items, drawing.whole name body = .complexDiagram items) ↔
      drawing.entryPoints.contains name = true := by
  cases hentry : drawing.entryPoints.contains name <;> simp [whole, hentry]

namespace Renderer

variable {r : Renderer} {markup : Markup}

/-- A rule has a diagram if the policy asks for it. -/
lemma isSome_diagram_iff {node : Node} {rule : RenderedRule} (h : r.node markup node = .ok rule) :
    rule.diagram.isSome = true ↔
      rule.provenance.isNative = true ∨ r.options.diagrams = .always := by
  obtain ⟨_, _, -, -, -, -, -, hdiagram⟩ := parts_of_node h
  rw [hdiagram]
  cases hdraws : r.draws rule.provenance with
  | false => simpa [draws] using hdraws
  | true => simpa [draws] using hdraws

/-- A diagram is complex if its rule is an entry point. -/
lemma complexDiagram_iff {node : Node} {rule : RenderedRule} {diagram : Diagram}
    (h : r.node markup node = .ok rule) (hdiagram : rule.diagram = some diagram) :
    rule.entryPoint = true ↔ ∃ items, diagram = .complexDiagram items := by
  obtain ⟨_, body, -, -, -, -, hentry, hdraws⟩ := parts_of_node h
  rw [hdiagram] at hdraws
  split at hdraws
  · obtain rfl := Option.some.inj hdraws
    rw [hentry]
    exact (Drawing.whole_eq_complexDiagram_iff r.drawing rule.name body).symm
  · simp at hdraws

/-- The summary of a grammar that has been rendered is that of its rules. -/
lemma summaries_of_all {R : Rendering} (h : r.all markup = .ok R) :
    r.grammar.summaries r.dependencies = R.rules.map RenderedRule.summary := by
  have hrules := forall₂_of_all h
  rw [Grammar.nodes, Dict.values, List.forall₂_map_left_iff] at hrules
  rw [Grammar.summaries, ← List.forall₂_eq_eq_eq, List.forall₂_map_left_iff,
    List.forall₂_map_right_iff]
  refine hrules.imp fun entry rule hnode => ?_
  obtain ⟨definition, _, hdefinition, -, -, hprovenance, hentry, -⟩ := parts_of_node hnode
  have hname : Grammar.declaredBy entry = rule.name := by
    rw [Grammar.declaredBy, hdefinition]
    rfl
  rw [RenderedRule.summary, hname, hprovenance, hentry]

end Renderer

/-! ## Inspections -/

namespace Grammar

open Json (Value)
open Text (Cell Sheet)

variable (g : Grammar) (d : Dependencies)

/-- The row of a definition: its name, how the grammar comes by it, the other grammar, and a mark if
it is an entry point. -/
def rowOf (entry : String × Node) : List Cell :=
  let name := declaredBy entry
  let mark : Cell := { text := if g.entryPoints.contains name then "yes" else "" }
  match d.provenance name with
  | .native => [{ text := name }, { text := "native" }, { text := "-" }, mark]
  | .imported source =>
    [{ text := name }, { text := "imported", colour := some .cyan }, { text := source }, mark]
  | .extended source =>
    [{ text := name }, { text := "extends", colour := some .yellow }, { text := source }, mark]

/-- The value of a definition. -/
def valueOf (entry : String × Node) : Value :=
  let name := declaredBy entry
  let provenance : Value :=
    match d.provenance name with
    | .native => .obj [("kind", .str "native")]
    | .imported source => .obj [("kind", .str "imported"), ("source", .str source)]
    | .extended source => .obj [("kind", .str "extended"), ("source", .str source)]
  .obj [("name", .str name), ("provenance", provenance),
    ("entry_point", .bool (g.entryPoints.contains name))]

/-- The table of a grammar has a row for each definition, in order. -/
def sheet : Sheet where
  borders := .aroundAndBelowHeader
  arrangement := .byTerminal
  header := ["Rule", "Provenance", "Source", "Entry point"]
  rows := g.definitions.entries.map (g.rowOf d)

/-- The value of a grammar lists that of each definition, in order. -/
def values : Value := .arr (g.definitions.entries.map (g.valueOf d))

/-- The numbers of definitions and of rows with a mark. -/
def counts : String :=
  toString g.definitions.entries.length ++ " rule(s), " ++
    toString ((g.sheet d).rows.countP fun row => row.getLast? = some { text := "yes" }) ++
    " entry point(s)"

/-- A summary tells of every definition once, in order. -/
lemma forall₂_summaries :
    List.Forall₂ (fun entry (summary : RuleSummary) => summary.name = declaredBy entry ∧
      summary.provenance = d.provenance summary.name ∧
      summary.entryPoint = g.entryPoints.contains summary.name)
      g.definitions.entries (g.summaries d) := by
  rw [summaries, List.forall₂_map_right_iff, List.forall₂_same]
  intro entry _
  exact ⟨rfl, rfl, rfl⟩

/-- What a summary puts into a table are the rows of the definitions. -/
lemma sheet_summaries : RuleSummary.sheet (g.summaries d) = g.sheet d := by
  have hrows : (g.summaries d).map RuleSummary.cells = g.definitions.entries.map (g.rowOf d) := by
    rw [summaries, List.map_map]
    refine List.map_congr_left fun entry _ => ?_
    rw [Function.comp_apply, RuleSummary.cells, rowOf]
    dsimp only
    cases d.provenance (declaredBy entry) <;> rfl
  rw [RuleSummary.sheet, hrows, sheet]

/-- What a summary is as a value are the values of the definitions. -/
lemma values_summaries : Value.arr ((g.summaries d).map RuleSummary.toValue) = g.values d := by
  rw [summaries, List.map_map, values]
  refine congrArg Value.arr (List.map_congr_left fun entry _ => ?_)
  rw [Function.comp_apply, RuleSummary.toValue, valueOf]
  dsimp only
  cases d.provenance (declaredBy entry) <;> rfl

/-- There are as many rows with a mark as there are entry points. -/
lemma counts_summaries : RuleSummary.counts (g.summaries d) = g.counts d := by
  have hmarked : ((g.sheet d).rows.countP fun row => row.getLast? = some { text := "yes" }) =
      (g.summaries d).countP RuleSummary.entryPoint := by
    rw [← sheet_summaries, RuleSummary.sheet, List.countP_map]
    refine List.countP_congr fun s _ => ?_
    cases hentry : s.entryPoint <;> simp [RuleSummary.cells, hentry]
  rw [RuleSummary.counts, counts, hmarked, summaries, List.length_map]

/-- Every row has a cell for each column. -/
lemma length_of_mem_sheet {row : List Cell} (h : row ∈ (g.sheet d).rows) :
    row.length = (g.sheet d).header.length := by
  obtain ⟨entry, -, rfl⟩ := List.mem_map.1 h
  rw [rowOf]
  cases d.provenance (declaredBy entry) <;> rfl

lemma plain_valueOf (entry : String × Node) : (g.valueOf d entry).Plain := by
  rw [valueOf]
  cases d.provenance (declaredBy entry) <;>
    exact .obj (by simp [Value.Plain.str, Value.Plain.bool, Value.Plain.obj])

lemma nesting_valueOf (entry : String × Node) : (g.valueOf d entry).nesting = 2 := by
  rw [valueOf]
  cases d.provenance (declaredBy entry) <;> rfl

/-- The values of a grammar are read back from their text. -/
lemma readText_values : Json.readText Json.Reader.value ((g.values d).indented ++ "\n") =
    .ok (g.values d) := by
  have hplain : (g.values d).Plain := by
    refine .arr fun v hv => ?_
    obtain ⟨entry, -, rfl⟩ := List.mem_map.1 hv
    exact g.plain_valueOf d entry
  have hnesting : (g.values d).nesting ≤ 127 := by
    refine Nat.succ_le_succ (Value.nestingItems_le.2 fun v hv => ?_)
    obtain ⟨entry, -, rfl⟩ := List.mem_map.1 hv
    rw [nesting_valueOf]
    decide
  have hblank : Json.Blank ("\n" : String).toList := by simp [Json.Blank, Json.Cursor.isBlank]
  exact Json.readText_indented hplain hnesting hblank

end Grammar

namespace Cli.Session

variable {session : Session}

/-- A grammar is opened if there is a text that describes it. -/
lemma openGrammar_of_text {path content : String} {g : Grammar}
    (hread : session.read path = .text content) (h : Grammar.ofText content = .ok g) :
    session.openGrammar path = .ok g := by
  rw [openGrammar, hread]
  simp only [h]

/-- A grammar that can be opened can be inspected. -/
lemma inspect_of_openGrammar {a : InspectArguments} {g : Grammar}
    (h : session.openGrammar a.grammar = .ok g) :
    (session.inspect a).code = 0 ∧ (session.inspect a).stdout =
      if a.json then RuleSummary.json (g.summaries (session.openDependencies a.dependencies))
      else RuleSummary.text session.table
        (g.summaries (session.openDependencies a.dependencies)) := by
  rw [inspect, h]
  exact ⟨rfl, rfl⟩

end Cli.Session

/-- **Summaries and renderings agree.**  When a grammar has been rendered, with whatever options and
markup, its summary consists of the names, the provenances and the entry points of the rules that
are shown, in order; a rule has a diagram if and only if it is native or all diagrams are asked for,
and its diagram is complex if and only if it is an entry point.  Whether or not the grammar can be
rendered, its summary tells of every definition once, in order, and an inspection succeeds.  As
JSON it writes the values of the definitions, in order, which are read back from its output.  Else
it hands the rows of the definitions, in order, to a printer of tables, and writes below the table
how many definitions there are and how many rows are marked; a printer that shows what it is handed
shows a block for every definition, in order. -/
theorem summaries_agree (g : Grammar) (d : Dependencies) :
    (∀ (options : Options) (markup : Markup) (R : Rendering),
      (Renderer.mk g d options).all markup = .ok R →
        g.summaries d = R.rules.map RenderedRule.summary ∧
        ∀ rule ∈ R.rules,
          (rule.diagram.isSome = true ↔
            rule.provenance.isNative = true ∨ options.diagrams = .always) ∧
          ∀ diagram, rule.diagram = some diagram →
            (rule.entryPoint = true ↔ ∃ items, diagram = .complexDiagram items)) ∧
    List.Forall₂ (fun entry (summary : RuleSummary) => summary.name = Grammar.declaredBy entry ∧
      summary.provenance = d.provenance summary.name ∧
      summary.entryPoint = g.entryPoints.contains summary.name)
      g.definitions.entries (g.summaries d) ∧
    ∀ (session : Cli.Session) (a : Cli.InspectArguments),
      session.openGrammar a.grammar = .ok g → session.openDependencies a.dependencies = d →
        (session.inspect a).code = 0 ∧
        (a.json = true →
          (session.inspect a).stdout = (g.values d).indented ++ "\n" ∧
          Json.readText Json.Reader.value (session.inspect a).stdout = .ok (g.values d)) ∧
        (a.json = false →
          (session.inspect a).stdout =
            session.table (g.sheet d) ++ "\n\n" ++ g.counts d ++ "\n" ∧
          (Text.PrintsRows session.table → ∃ header blocks,
            Text.ShowsSheet (g.sheet d) (session.table (g.sheet d)) header blocks)) := by
  refine ⟨?_, g.forall₂_summaries d, ?_⟩
  · intro options markup R hR
    refine ⟨Renderer.summaries_of_all hR, ?_⟩
    intro rule hrule
    obtain ⟨node, -, hnode⟩ := exists_of_mem_left (Renderer.forall₂_of_all hR).flip hrule
    constructor
    · exact Renderer.isSome_diagram_iff hnode
    · intro diagram hdiagram
      exact Renderer.complexDiagram_iff hnode hdiagram
  · rintro session a hopen rfl
    obtain ⟨hcode, hstdout⟩ := Cli.Session.inspect_of_openGrammar hopen
    refine ⟨hcode, ?_, ?_⟩
    · intro hjson
      rw [if_pos hjson, RuleSummary.json, Grammar.values_summaries] at hstdout
      rw [hstdout]
      exact ⟨rfl, g.readText_values _⟩
    · intro hjson
      rw [if_neg (by simp [hjson]), RuleSummary.text, Grammar.sheet_summaries,
        Grammar.counts_summaries] at hstdout
      exact ⟨hstdout, fun hprints => hprints _ fun row hrow => g.length_of_mem_sheet _ hrow⟩

/-- A day of two digits that are imported, under keys that are not the names of the rules. -/
def almanac : Grammar :=
  ⟨⟨[("DAY", .rule "day" (.repetition (.reference "digit") ⟨2, some 2⟩)),
     ("digit", .rule "Digit" (.range 48 57 .decimal))], by decide⟩, ["DIGIT"]⟩

/-- The almanac and the origin of its digits. -/
def almanacFiles (path : String) : Reading :=
  if path = "deps.json" then .text "\x7b\"imports\":\x7b\"DIGIT\":\"RFC5234\"\x7d\x7d"
  else .text almanac.toValue.compact

/-- The almanac is rendered with one diagram, and inspected in both forms; its digits come from the
file of the dependencies. -/
theorem summaries_agree_almanac :
    (∃ R, (Renderer.mk almanac (Dependencies.none.addImport "DIGIT" "RFC5234") {}).all .plain =
        .ok R ∧
      R.rules.map RenderedRule.summary =
        [⟨"day", .native, true⟩, ⟨"Digit", .imported "RFC5234", false⟩]) ∧
    ∃ session : Cli.Session,
      session.openGrammar "almanac" = .ok almanac ∧
      session.openDependencies (some "deps.json") =
        Dependencies.none.addImport "DIGIT" "RFC5234" ∧
      Json.readText Json.Reader.value (session.inspect
          { grammar := "almanac", dependencies := "deps.json", json := true }).stdout =
        .ok (.arr
          [.obj [("name", .str "day"), ("provenance", .obj [("kind", .str "native")]),
            ("entry_point", .bool true)],
          .obj [("name", .str "Digit"),
            ("provenance", .obj [("kind", .str "imported"), ("source", .str "RFC5234")]),
            ("entry_point", .bool false)]]) ∧
      ∃ table header first second,
        (session.inspect { grammar := "almanac", dependencies := "deps.json" }).stdout =
          table ++ "\n\n" ++ "2 rule(s), 1 entry point(s)" ++ "\n" ∧
        (∃ n, table = "\n".intercalate (Text.border "┌" "─" "┐" n :: header ++
          Text.border "╞" "═" "╡" n :: (first ++ second) ++ [Text.border "└" "─" "┘" n])) ∧
        Text.ShowsRow ["Rule", "Provenance", "Source", "Entry point"] header ∧
        Text.ShowsRow ["day", "native", "-", "yes"] first ∧
        Text.ShowsRow ["Digit", "imported", "RFC5234", ""] second := by
  let d := Dependencies.none.addImport "DIGIT" "RFC5234"
  have hrows : almanac.summaries d =
    [⟨"day", .native, true⟩, ⟨"Digit", .imported "RFC5234", false⟩] := by decide
  constructor
  · obtain ⟨R, hR⟩ := failure_eq_none_iff.1
      (((Renderer.mk almanac d {}).selected_failure none .plain).trans (by decide))
    obtain ⟨hsummaries, -⟩ := (summaries_agree almanac d).1 {} .plain R hR
    exact ⟨R, hR, hsummaries.symm.trans hrows⟩
  · let session : Cli.Session := ⟨almanacFiles, Text.table, false, []⟩
    have hopen : session.openGrammar "almanac" = .ok almanac :=
      Cli.Session.openGrammar_of_text rfl (Grammar.ofText_compact (by decide))
    have hload : session.openDependencies (some "deps.json") = d := by decide +kernel
    obtain ⟨-, hjson, -⟩ := (summaries_agree almanac d).2.2 session
      { grammar := "almanac", dependencies := "deps.json", json := true } hopen hload
    obtain ⟨-, -, htext⟩ := (summaries_agree almanac d).2.2 session
      { grammar := "almanac", dependencies := "deps.json" } hopen hload
    obtain ⟨-, hread⟩ := hjson rfl
    obtain ⟨hstdout, hshows⟩ := htext rfl
    obtain ⟨header, blocks, ⟨n, htable⟩, hheader, hblocks⟩ := hshows Text.printsRows_table
    rw [← Grammar.values_summaries, hrows] at hread
    rw [← Grammar.counts_summaries, hrows] at hstdout
    rw [← Grammar.sheet_summaries, hrows] at hblocks
    obtain ⟨first, _, hfirst, hrest, rfl⟩ := List.forall₂_cons_left_iff.1 hblocks
    obtain ⟨second, _, hsecond, hnil, rfl⟩ := List.forall₂_cons_left_iff.1 hrest
    obtain rfl := List.forall₂_nil_left_iff.1 hnil
    refine ⟨session, hopen, hload, hread, _, header, first, second, hstdout, ⟨n, ?_⟩, hheader,
      hfirst, hsecond⟩
    simpa using htable

end Abnf
